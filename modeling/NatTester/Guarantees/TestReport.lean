import NatTester.Guarantees.NatVerdicts
import NatTester.Guarantees.SavedReport
import NatTester.Guarantees.TestCommand

/-!
# What a UDP test saves

From the test of the activity to the text in its file, on a network that loses
nothing but what the NAT filters: the command line gives the program the
configuration for all tests, its loop ends with the report on the NAT, and the lines
of the report are saved behind the text `null`.
-/
namespace NatTester.Guarantees
open NatTester.Lib NatTester.Source NatTester.Client NatTester.Network

/-- What the command line of a UDP test configures. -/
def udpTestConfig (addrServer : CSocketAddress) : StunClientLogicConfig where
  addrServer
  fTimeoutIsInstant := false
  timeoutSeconds := 0
  uMaxAttempts := 0
  fBehaviorTest := true
  fFilteringTest := true

def udpTestSocket [Platform] (port : String) : ClientSocketConfig where
  family := .inet
  socktype := .dgram
  addrLocal := CSocketAddress.ofIp4 0 (portGiven port 0)

/-- The lines of the report on the NAT. -/
def natLines (inet_ntop : AddressFamily → Bytes → String) (w : World) (config : StunClientLogicConfig) : List String :=
  ["Binding test: success",
    "Local address: " ++ w.addrLocal.toStringBuffer inet_ntop,
    "Mapped address: " ++ (w.nat (w.server.address .rolePP)).toStringBuffer inet_ntop,
    "Behavior test: success",
    "Nat behavior: " ++ natBehaviorToString (w.server.natBehavior w.nat w.addrLocal),
    "Filtering test: success",
    "Nat filtering: " ++ natFilteringToString (w.shownFiltering config)]

def OneLine (text : List Char) : Prop := ∀ ch ∈ text, isLineBreak ch = false

theorem all_iff_oneLine (text : List Char) : (text.all fun ch => !isLineBreak ch) = true ↔ OneLine text := by
  simp [OneLine]

instance (text : List Char) : Decidable (OneLine text) := decidable_of_iff _ (all_iff_oneLine text)

/-- What a test with these lines saves, between the separators of its own. -/
def savedLines (client : StunClient) (ls : List String) : String :=
  StunTester.line ++ (client.text ++ "\r\n") ++ ("null" ++ String.ofList (terminated (ls.map String.toList))) ++ "\r\n" ++
    "\r\n"

/-! ## The lines -/

theorem vprintf_cons {ch : Char} (h : '%' ≠ ch) (argument rest : List Char) :
    vprintf argument (ch :: rest) = ch :: vprintf argument rest := by
  rw [vprintf]
  intro others heq
  exact absurd heq.symm h

theorem vprintf_front {front : List Char} (h : '%' ∉ front) (argument : List Char) :
    vprintf argument (front ++ ['%', 's']) = front ++ argument := by
  induction front with
  | nil => exact List.append_nil argument
  | cons ch front ih =>
    obtain ⟨hch, hfront⟩ := not_or.mp (List.mem_cons.not.mp h)
    rw [List.cons_append, vprintf_cons hch, ih hfront]
    rfl

theorem line_of_format (pszFormat front : String) (hformat : pszFormat.toList = front.toList ++ ['%', 's'])
    (h : '%' ∉ front.toList) (argument : String) : LogMsg.line ⟨pszFormat, argument⟩ = (front ++ argument).toList := by
  rw [LogMsg.line, hformat, vprintf_front h, String.toList_append]

theorem natReport_lines (inet_ntop : AddressFamily → Bytes → String) (w : World) (addrServer : CSocketAddress) :
    (natReport inet_ntop w (udpTestConfig addrServer)).map LogMsg.line =
      (natLines inet_ntop w (udpTestConfig addrServer)).map String.toList := by
  have hbinding : LogMsg.line ⟨"Binding test: %s", "success"⟩ = "Binding test: success".toList := by decide
  have hbehavior : LogMsg.line ⟨"Behavior test: %s", "success"⟩ = "Behavior test: success".toList := by decide
  have hfiltering : LogMsg.line ⟨"Filtering test: %s", "success"⟩ = "Filtering test: success".toList := by decide
  have hlocal := line_of_format "Local address: %s" "Local address: " (by decide) (by decide)
  have hmapped := line_of_format "Mapped address: %s" "Mapped address: " (by decide) (by decide)
  have hnat := line_of_format "Nat behavior: %s" "Nat behavior: " (by decide) (by decide)
  have hshown := line_of_format "Nat filtering: %s" "Nat filtering: " (by decide) (by decide)
  simp only [natReport, udpTestConfig, natLines, if_true, List.cons_append, List.nil_append, List.map_cons, List.map_nil,
    hbinding, hbehavior, hfiltering, hlocal, hmapped, hnat, hshown]

theorem OneLine.append {a b : String} (ha : OneLine a.toList) (hb : OneLine b.toList) : OneLine (a ++ b).toList := by
  intro ch hch
  rw [String.toList_append] at hch
  rcases List.mem_append.mp hch with hch | hch
  · exact ha ch hch
  · exact hb ch hch

theorem oneLine_digits (n : Nat) : OneLine (toString n).toList := by
  intro ch hch
  rw [Nat.toString_eq_repr, Nat.toList_repr] at hch
  have hdigit : ch.isDigit = true := Nat.isDigit_of_mem_toDigits (by decide) (by decide) hch
  cases hbreak : isLineBreak ch with
  | false => rfl
  | true =>
    simp only [isLineBreak, Bool.decide_or, Bool.or_eq_true, decide_eq_true_eq] at hbreak
    rcases hbreak with rfl | rfl <;> cases hdigit

theorem natLines_oneLine {inet_ntop : AddressFamily → Bytes → String}
    (hntop : ∀ family ip, OneLine (inet_ntop family ip).toList) (w : World) (config : StunClientLogicConfig) :
    ∀ line ∈ (natLines inet_ntop w config).map String.toList, OneLine line := by
  have haddress (a : CSocketAddress) : OneLine (a.toStringBuffer inet_ntop).toList :=
    OneLine.append (OneLine.append (hntop a.family a.ip) (by decide)) (oneLine_digits a.getPort.toNat)
  have hbehavior (behavior : NatBehavior) : OneLine (natBehaviorToString behavior).toList := by
    cases behavior <;> decide
  have hfiltering (filtering : NatFiltering) : OneLine (natFilteringToString filtering).toList := by
    cases filtering <;> decide
  intro line hline
  obtain ⟨text, htext, rfl⟩ := List.mem_map.mp hline
  simp only [natLines, List.mem_cons, List.not_mem_nil, or_false] at htext
  rcases htext with rfl | rfl | rfl | rfl | rfl | rfl | rfl
  · decide
  · exact OneLine.append (by decide) (haddress _)
  · exact OneLine.append (by decide) (haddress _)
  · decide
  · exact OneLine.append (by decide) (hbehavior _)
  · decide
  · exact OneLine.append (by decide) (hfiltering _)

/-- Of what a process prints line by line, each line is saved. -/
theorem testOne_printed {printed : List LogMsg} {ls : List String} (h : printed.map LogMsg.line = ls.map String.toList)
    (hlines : ∀ line ∈ ls.map String.toList, OneLine line) (p : StunTester.Progress) (client : StunClient) :
    (StunTester.testOne p (client, .ran (stdoutOf printed))).file = p.file ++ savedLines client ls := by
  have hstdout : stdoutOf printed = String.ofList ((ls.map String.toList).flatMap fun line => line ++ ['\n']) := by
    rw [stdoutOf, ← h, List.flatMap_map]
  have hread : printedLines (stdoutOf printed) = String.ofList (terminated (ls.map String.toList)) := by
    rw [printedLines, hstdout, String.toList_ofList, lines_newlines hlines]
  rw [testOne_file p (client, stdoutOf printed), savedCase, hread]
  rfl

/-! ## The configuration -/

section Test
variable [Platform] {host : Host} {client : StunClient} {addr : CSocketAddress}

omit [Platform] in
theorem resolveHostName_ne_empty (hresolves : resolveHostName host client.serverIpAddress .inet = .ok addr) :
    client.serverIpAddress ≠ "" := by
  intro hempty
  have htrim : trim "" = "" := by decide
  rw [hempty, resolveHostName, htrim] at hresolves
  cases hresolves

theorem createConfig_udpTest (hprotocol : client.protocol = .udp) (hport : PortGood client.port)
    (hresolves : resolveHostName host client.serverIpAddress .inet = .ok addr) :
    createConfigFromCommandLine host (testArgs client) =
      .ok (udpTestConfig (addr.setPort DEFAULT_STUN_PORT), udpTestSocket client.port) := by
  have hfamily : familyOption (testArgs client).strFamily = .ok .inet :=
    (familyOption_ok_iff "" .inet).mpr ⟨.inl rfl, rfl⟩
  have hudp : protocolOption (testArgs client).strProtocol = .ok false := by
    have hname : (testArgs client).strProtocol = "udp" := by rw [testArgs, hprotocol, StunProtocol.name]
    rw [hname]
    exact (protocolOption_ok_iff "udp" false).mpr ⟨.inr (.inl (by decide)), by decide⟩
  have hremote : portOption (testArgs client).strRemotePort DEFAULT_STUN_PORT = .ok DEFAULT_STUN_PORT :=
    (portOption_ok_iff "" DEFAULT_STUN_PORT DEFAULT_STUN_PORT).mpr ⟨.inl rfl, rfl⟩
  have hserver : serverOption ⟨resolveHostName host, getSocketAddressForAdapter host⟩ (testArgs client).strRemoteServer
      .inet = .ok addr := (serverOption_ok_iff _ _ _ _).mpr ⟨resolveHostName_ne_empty hresolves, hresolves⟩
  have hlocal : portOption (testArgs client).strLocalPort 0 = .ok (portGiven client.port 0) :=
    (portOption_ok_iff client.port 0 _).mpr ⟨hport, rfl⟩
  have hfull : fullMode (testArgs client).strMode = true := by
    change fullMode client.mode.name = true
    cases client.mode
    decide
  unfold createConfigFromCommandLine createConfigWith
  rw [hfamily, hudp, hremote, hlocal]
  simp only [bind, Except.bind]
  rw [hserver, hfull]
  rfl

variable [Digests] {inet_ntop : AddressFamily → Bytes → String} {udpInit : CSocketAddress → HRESULT}
  {unset : StunClientLogicConfig} {fUnset : Bool} {rounds : List UdpRound} {gap first : Nat} {w : World}

/-- For every server with two IPs and two ports that the text of the test resolves to on port 3478, every port the
socket can be made on and every NAT, with one mapping for each destination, none of them to IP 0, and any of the three
rules for what it lets in: if every answer that is let in comes in the turn of its request and the loop looks at the
clock often enough, the program started by the UDP test enters its loop with both kinds of tests asked for, ends after
ten timeouts and waits for the clock at most, and just these lines on the NAT are saved, behind the text `null`. -/
theorem udp_test_saves_nat {clock : List Nat} (applicationRoot : String) (hprotocol : client.protocol = .udp)
    (hserver : ¬TakenForOption client.serverIpAddress) (hport : PortGood client.port)
    (hresolves : resolveHostName host client.serverIpAddress .inet = .ok addr)
    (haddress : addr.setPort DEFAULT_STUN_PORT = w.server.addrPrimary) (hdistinct : w.server.Distinct)
    (hnonzero : ∀ addr, (w.nat addr).isIPAddressZero = false)
    (hntop : ∀ family ip, OneLine (inet_ntop family ip).toList)
    (hsocket : FAILED (udpInit (udpTestSocket client.port).addrLocal) = false) (hclock : ClockAt gap first clock rounds)
    (hwraps : 3000 + gap < 2 ^ 32) (hlate : first + 10 * (3000 + gap) < clock.getLastD first + gap)
    (hlossless : Lossless w inet_ntop (udpTestConfig w.server.addrPrimary)
      (udpClientLoop inet_ntop (udpTestConfig w.server.addrPrimary) (udpTestSocket client.port) udpInit unset fUnset [])
      rounds) :
    clientMain host (client.commandLine applicationRoot) =
        .udpClientLoop (udpTestConfig w.server.addrPrimary) (udpTestSocket client.port) ∧
      ∃ printed, udpClientLoop inet_ntop (udpTestConfig w.server.addrPrimary) (udpTestSocket client.port) udpInit unset
          fUnset rounds = .exited (.ready printed) ∧
        ∀ p : StunTester.Progress, (StunTester.testOne p (client, .ran (stdoutOf printed))).file =
          p.file ++ savedLines client (natLines inet_ntop w (udpTestConfig w.server.addrPrimary)) := by
  have hconfig := createConfig_udpTest hprotocol hport hresolves
  rw [haddress] at hconfig
  have hmain : clientMain host (client.commandLine applicationRoot) =
      .udpClientLoop (udpTestConfig w.server.addrPrimary) (udpTestSocket client.port) := by
    rw [clientMain_commandLine host applicationRoot client hserver, hconfig]
    rfl
  have hloop : udpClientLoop inet_ntop (udpTestConfig w.server.addrPrimary) (udpTestSocket client.port) udpInit unset
      fUnset rounds = .exited (.ready (natReport inet_ntop w (udpTestConfig w.server.addrPrimary))) :=
    udpClientLoop_natReport rfl hdistinct hnonzero hsocket hclock hwraps hlate hlossless
  refine ⟨hmain, _, hloop, ?_⟩
  intro p
  exact testOne_printed (natReport_lines inet_ntop w w.server.addrPrimary)
    (natLines_oneLine hntop w (udpTestConfig w.server.addrPrimary)) p client

end Test

/-! ## A test -/

theorem oneLine_dottedQuad (family : AddressFamily) (ip : Bytes) : OneLine (dottedQuad family ip).toList := by
  unfold dottedQuad
  induction ip with
  | nil => decide
  | cons b ip ih =>
    rw [List.map_cons]
    by_cases hlast : ip.map (fun b => toString b.toNat) = []
    · rw [hlast, String.intercalate_singleton]
      exact oneLine_digits b.toNat
    · rw [String.intercalate_cons_of_ne_nil hlast]
      exact OneLine.append (OneLine.append (oneLine_digits b.toNat) (by decide)) ih

def smallHost : Host where
  getaddrinfo := fun _ _ => .ok [CSocketAddress.ofIp4 1 0]
  getifaddrs := .error 0
  inet_pton := fun _ _ => none

def smallTest : StunClient := ⟨.full, .udp, "stun.server", "2000"⟩

/-- The first three turns are answered, and after the last of them nothing is left to ask. -/
def testRounds : List (SocketRole × UdpRound) :=
  coneRounds.take 3 ++ [5, 30005, 60005, 90005, 120005, 150005, 180005, 210005, 240005, 270005, 300005, 300006].map fun time =>
    (.rolePP, silentRound time)

theorem testRounds_lossless :
    let _ := Platform.armeabi
    let _ := requestDigests
    losslessOn coneWorld dottedQuad (udpTestConfig smallServer.addrPrimary) testRounds
      (.looping (UdpClient.start (fresh (udpTestConfig smallServer.addrPrimary)))) = true := by
  decide +kernel

theorem udp_test_saves_nat_cone :
    let _ := Platform.armeabi
    let _ := requestDigests
    clientMain smallHost (smallTest.commandLine "") =
        .udpClientLoop (udpTestConfig smallServer.addrPrimary) (udpTestSocket "2000") ∧
      ∃ printed, udpClientLoop dottedQuad (udpTestConfig smallServer.addrPrimary) (udpTestSocket "2000") (fun _ => S_OK)
          fullConfig false (testRounds.map Prod.snd) = .exited (.ready printed) ∧
        ∀ p : StunTester.Progress, (StunTester.testOne p (smallTest, .ran (stdoutOf printed))).file =
          p.file ++ savedLines smallTest (natLines dottedQuad coneWorld (udpTestConfig smallServer.addrPrimary)) := by
  have hchecked := testRounds_lossless
  intro platform digests
  have hserver : ¬TakenForOption "stun.server" := by
    rw [← optionText_eq_none]
    decide
  have hdistinct : coneWorld.server.Distinct := ⟨by decide, by decide⟩
  have hnonzero : (CSocketAddress.ofIp4 9 9).isIPAddressZero = false := by decide
  have hclock : ClockAt 30000 5 [5, 5, 5, 30005, 60005, 90005, 120005, 150005, 180005, 210005, 240005, 270005, 300005, 300006]
      (testRounds.map Prod.snd) := ⟨rfl, by simp [LooksWithin]⟩
  have hport : PortGood "2000" := .inr (by decide)
  have hresolves : resolveHostName smallHost smallTest.serverIpAddress .inet = .ok (CSocketAddress.ofIp4 1 0) := rfl
  exact udp_test_saves_nat "" rfl hserver hport hresolves rfl hdistinct (fun _ => hnonzero) oneLine_dottedQuad (by decide)
    hclock (by decide) (by decide) (losslessOn_lossless hchecked)

end NatTester.Guarantees
