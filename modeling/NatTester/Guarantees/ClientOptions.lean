import NatTester.Source.CommandLine

/-!
# The command line is rejected or honoured

Every option that `CreateConfigFromCommandLine` cannot read stops it, but for the mode:
a mode that is neither `full` nor `basic` is logged and the run goes on as a basic one.
-/
namespace NatTester.Guarantees
open NatTester.Lib NatTester.Source

section Options
variable [Platform]

def FamilyGood (strFamily : String) : Prop := strFamily = "" ∨ atoi strFamily = 4 ∨ atoi strFamily = 6

/-- The text is empty or, in either case of its letters, one of the two. -/
def OneOf (first second text : String) : Prop := text = "" ∨ toLower text = first ∨ toLower text = second

def PortGood (strPort : String) : Prop := strPort = "" ∨ (validateNumberString strPort 1 0xffff).isSome = true

def familyAsked (strFamily : String) : AddressFamily :=
  if strFamily ≠ "" ∧ atoi strFamily = 6 then .inet6 else .inet

/-- The given port, or what it is without one. -/
def portGiven (strPort : String) (without : UInt16) : UInt16 :=
  if strPort = "" then without else UInt16.ofNat (atoi strPort).toNat

/-- Every option but the mode can be read, and the addresses are found. -/
structure OptionsGood (lookup : AddressLookup) (args : ClientCmdLineArgs) : Prop where
  family : FamilyGood args.strFamily
  protocol : OneOf "udp" "tcp" args.strProtocol
  remotePort : PortGood args.strRemotePort
  localPort : PortGood args.strLocalPort
  server : args.strRemoteServer ≠ ""
  resolves : ∃ addr, lookup.resolveHostName args.strRemoteServer (familyAsked args.strFamily) = .ok addr
  localAddr : args.strLocalAddr = "" ∨ ∃ addr,
    lookup.getSocketAddressForAdapter (familyAsked args.strFamily) args.strLocalAddr (portGiven args.strLocalPort 0) = .ok addr

def ModeGood (args : ClientCmdLineArgs) : Prop := OneOf "basic" "full" args.strMode

/-- The configuration is the one the options ask for. -/
structure Honoured (args : ClientCmdLineArgs) (config : StunClientLogicConfig) (socketconfig : ClientSocketConfig) :
    Prop where
  family : socketconfig.family = familyAsked args.strFamily
  socktype : socketconfig.socktype = .stream ↔ toLower args.strProtocol = "tcp"
  serverPort : config.addrServer.getPort = portGiven args.strRemotePort DEFAULT_STUN_PORT
  localAddr : args.strLocalAddr = "" → socketconfig.addrLocal.isIPAddressZero = true ∧
    socketconfig.addrLocal.getPort = portGiven args.strLocalPort 0
  fBehaviorTest : config.fBehaviorTest = true ↔ toLower args.strMode = "full"
  fFilteringTest : config.fFilteringTest = true ↔ toLower args.strMode = "full" ∧ toLower args.strProtocol ≠ "tcp"
  uMaxAttempts : config.uMaxAttempts = 1 ↔ toLower args.strProtocol = "tcp"

structure RejectsOrHonours (lookup : AddressLookup) (args : ClientCmdLineArgs) : Prop where
  succeeds : (∃ result, createConfigWith lookup args = .ok result) ↔ OptionsGood lookup args ∧ ModeGood args
  honours : ∀ config socketconfig, createConfigWith lookup args = .ok (config, socketconfig) →
    Honoured args config socketconfig

/-! ## Each option -/

theorem familyOption_ok_iff (strFamily : String) (family : AddressFamily) :
    familyOption strFamily = .ok family ↔ FamilyGood strFamily ∧ familyAsked strFamily = family := by
  unfold familyOption FamilyGood familyAsked isNullOrEmpty
  by_cases hempty : strFamily = ""
  · simp [hempty]
  by_cases hfour : atoi strFamily = 4
  · simp [hempty, hfour]
  by_cases hsix : atoi strFamily = 6
  · simp [hempty, hsix]
  · simp [hempty, hfour, hsix]

omit [Platform] in
theorem toLower_eq_empty {text : String} (h : toLower text = "") : text = "" := by
  have hlist := congrArg String.toList h
  rw [toLower, String.toList_ofList] at hlist
  exact String.toList_eq_nil_iff.mp (List.map_eq_nil_iff.mp hlist)

omit [Platform] in
theorem protocolOption_ok_iff (strProtocol : String) (fTCP : Bool) :
    protocolOption strProtocol = .ok fTCP ↔
      OneOf "udp" "tcp" strProtocol ∧ decide (toLower strProtocol = "tcp") = fTCP := by
  unfold protocolOption OneOf isNullOrEmpty
  by_cases hempty : strProtocol = ""
  · subst hempty
    simp [toLower]
  have hlower : toLower strProtocol ≠ "" := fun h => hempty (toLower_eq_empty h)
  by_cases hudp : toLower strProtocol = "udp"
  · simp [hudp]
  by_cases htcp : toLower strProtocol = "tcp"
  · simp [htcp]
  · simp [hempty, hlower, hudp, htcp]

theorem portGood_iff (strPort : String) : PortGood strPort ↔ strPort = "" ∨ 1 ≤ atoi strPort ∧ atoi strPort ≤ 0xffff := by
  unfold PortGood
  rw [validateNumberString_eq]
  by_cases hempty : strPort = ""
  · simp [hempty]
  by_cases hrange : 1 ≤ atoi strPort ∧ atoi strPort ≤ 0xffff
  · simp [hempty, hrange]
  · simp only [ne_eq, hempty, not_false_eq_true, hrange, and_false, if_false, Option.isSome_none, Bool.false_eq_true, or_false]

theorem portOption_ok_iff (strPort : String) (without port : UInt16) :
    portOption strPort without = .ok port ↔ PortGood strPort ∧ portGiven strPort without = port := by
  rw [portOption_eq, portGood_iff, portGiven]
  by_cases hempty : strPort = ""
  · simp [hempty]
  by_cases hrange : 1 ≤ atoi strPort ∧ atoi strPort ≤ 0xffff
  · simp [hempty, hrange]
  · simp only [hempty, hrange, if_false, false_or, false_and, iff_false]
    intro h
    cases h

omit [Platform] in
theorem serverOption_ok_iff (lookup : AddressLookup) (strRemoteServer : String) (family : AddressFamily)
    (addr : CSocketAddress) :
    serverOption lookup strRemoteServer family = .ok addr ↔
      strRemoteServer ≠ "" ∧ lookup.resolveHostName strRemoteServer family = .ok addr := by
  unfold serverOption isNullOrEmpty
  by_cases hempty : strRemoteServer = "" <;> simp [hempty]

omit [Platform] in
theorem localAddrOption_ok_iff (lookup : AddressLookup) (strLocalAddr : String) (family : AddressFamily) (localport : UInt16) :
    (∃ addr, localAddrOption lookup strLocalAddr family localport = .ok addr) ↔
      strLocalAddr = "" ∨ ∃ addr, lookup.getSocketAddressForAdapter family strLocalAddr localport = .ok addr := by
  unfold localAddrOption isNullOrEmpty
  by_cases hempty : strLocalAddr = ""
  · cases family <;> simp [hempty]
  · simp [hempty]

omit [Platform] in
/-- Without the option, the address of zeros of the family. -/
theorem localAddrOption_zero {lookup : AddressLookup} {family : AddressFamily} {localport : UInt16} {addr : CSocketAddress}
    (h : localAddrOption lookup "" family localport = .ok addr) :
    addr.isIPAddressZero = true ∧ addr.getPort = localport := by
  cases family <;> cases h <;> exact ⟨rfl, rfl⟩

/-! ## The whole command line -/

variable {lookup : AddressLookup} {args : ClientCmdLineArgs}

/-- What the options must be like for a configuration, and what it then is. -/
theorem createConfigWith_ok {config : StunClientLogicConfig} {socketconfig : ClientSocketConfig}
    (h : createConfigWith lookup args = .ok (config, socketconfig)) :
    OptionsGood lookup args ∧ Honoured args config socketconfig := by
  unfold createConfigWith at h
  obtain ⟨family, hfamily, h⟩ := bind_eq_ok h
  obtain ⟨fTCP, hprotocol, h⟩ := bind_eq_ok h
  obtain ⟨remoteport, hremote, h⟩ := bind_eq_ok h
  obtain ⟨addrServer, hserver, h⟩ := bind_eq_ok h
  obtain ⟨localport, hlocal, h⟩ := bind_eq_ok h
  obtain ⟨addrLocal, haddr, hconfig⟩ := bind_eq_ok h
  obtain ⟨hfamilyGood, rfl⟩ := (familyOption_ok_iff _ _).mp hfamily
  obtain ⟨hprotocolGood, rfl⟩ := (protocolOption_ok_iff _ _).mp hprotocol
  obtain ⟨hremoteGood, rfl⟩ := (portOption_ok_iff _ _ _).mp hremote
  obtain ⟨hlocalGood, rfl⟩ := (portOption_ok_iff _ _ _).mp hlocal
  obtain ⟨hne, hresolved⟩ := (serverOption_ok_iff _ _ _ _).mp hserver
  have hfound := (localAddrOption_ok_iff ..).mp ⟨addrLocal, haddr⟩
  cases hconfig
  refine ⟨⟨hfamilyGood, hprotocolGood, hremoteGood, hlocalGood, hne, ⟨addrServer, hresolved⟩, hfound⟩, ?_⟩
  refine ⟨rfl, ?_, rfl, ?_, ?_, ?_, ?_⟩
  · by_cases htcp : toLower args.strProtocol = "tcp" <;> simp [htcp]
  · intro hempty
    rw [hempty] at haddr
    exact localAddrOption_zero haddr
  · simp [fullMode]
  · simp [fullMode]
  · by_cases htcp : toLower args.strProtocol = "tcp" <;> simp [htcp]

theorem createConfigWith_of_good (h : OptionsGood lookup args) : ∃ result, createConfigWith lookup args = .ok result := by
  obtain ⟨addrServer, hresolved⟩ := h.resolves
  obtain ⟨addrLocal, hlocal⟩ := (localAddrOption_ok_iff lookup args.strLocalAddr (familyAsked args.strFamily)
    (portGiven args.strLocalPort 0)).mpr h.localAddr
  unfold createConfigWith
  rw [(familyOption_ok_iff _ _).mpr ⟨h.family, rfl⟩, (protocolOption_ok_iff _ _).mpr ⟨h.protocol, rfl⟩,
    (portOption_ok_iff args.strRemotePort _ _).mpr ⟨h.remotePort, rfl⟩,
    (portOption_ok_iff args.strLocalPort _ _).mpr ⟨h.localPort, rfl⟩]
  simp only [bind, Except.bind]
  rw [(serverOption_ok_iff _ _ _ _).mpr ⟨h.server, hresolved⟩]
  simp only
  rw [hlocal]
  exact ⟨_, rfl⟩

/-- For every command line, and whatever the two lookups answer: it is rejected or honoured exactly where the mode is one of
the two or left out, or where something else is wrong as well. -/
theorem rejects_or_honours_iff (lookup : AddressLookup) (args : ClientCmdLineArgs) :
    RejectsOrHonours lookup args ↔ ModeGood args ∨ ¬ OptionsGood lookup args := by
  constructor
  · intro h
    by_cases hgood : OptionsGood lookup args
    · exact .inl (h.succeeds.mp (createConfigWith_of_good hgood)).2
    · exact .inr hgood
  · intro h
    refine ⟨⟨?_, fun hgood => createConfigWith_of_good hgood.1⟩, fun config socketconfig hok => (createConfigWith_ok hok).2⟩
    rintro ⟨⟨config, socketconfig⟩, hok⟩
    have hgood := (createConfigWith_ok hok).1
    exact ⟨hgood, h.resolve_right fun hnot => hnot hgood⟩

end Options

/-- Lookups that find 0.0.0.1. -/
def oneAddress : AddressLookup := ⟨fun _ _ => .ok (CSocketAddress.ofIp4 1 0), fun _ _ _ => .error E_FAIL⟩

/-- `stunclient --mode ful server` -/
def misspeltMode : ClientCmdLineArgs where
  strRemoteServer := "server"
  strRemotePort := ""
  strLocalAddr := ""
  strLocalPort := ""
  strMode := "ful"
  strFamily := ""
  strProtocol := ""

/-- The mode `ful` is taken for `basic`. -/
theorem misspelt_mode_accepted :
    let _ := Platform.armeabi
    ¬ RejectsOrHonours oneAddress misspeltMode := by
  intro platform h
  have hgood : OptionsGood oneAddress misspeltMode :=
    ⟨.inl rfl, .inl rfl, .inl rfl, .inl rfl, by decide, ⟨_, rfl⟩, .inl rfl⟩
  have hmode := (h.succeeds.mp (createConfigWith_of_good hgood)).2
  rcases hmode with hempty | hbasic | hfull
  · exact absurd hempty (by decide)
  · exact absurd hbasic (by decide)
  · exact absurd hfull (by decide)

end NatTester.Guarantees
