import NatTester.Guarantees.ClientOptions
import NatTester.Guarantees.CommandLine

/-!
# The command line of a test

A test of the activity runs the client program with a command line. The program
sees the server, the mode, the protocol and the port of the test, unless the text
for the server is taken for an option; then it never tests that server.
-/
namespace NatTester.Guarantees
open NatTester.Lib NatTester.Source CCmdLineParser

/-- The options of a test. -/
def testArgs (client : StunClient) : ClientCmdLineArgs where
  strRemoteServer := client.serverIpAddress
  strRemotePort := ""
  strLocalAddr := ""
  strLocalPort := client.port
  strMode := client.mode.name
  strFamily := ""
  strProtocol := client.protocol.name

def modeDetail : OptionDetail CmdLineString := ⟨"mode", .required_argument, .strMode⟩
def protocolDetail : OptionDetail CmdLineString := ⟨"protocol", .required_argument, .strProtocol⟩
def localPortDetail : OptionDetail CmdLineString := ⟨"localport", .required_argument, .strLocalPort⟩

/-! ## What its words say -/

theorem protocol_words (protocol port : String) :
    Says cmdline.generateOptions ["--protocol", protocol, "--localport", port]
      [.answered (.option protocolDetail (some protocol)), .answered (.option localPortDetail (some port))] := by
  have hprotocol : cmdline.generateOptions.find "protocol".toList = some protocolDetail := by decide
  have hport : cmdline.generateOptions.find "localport".toList = some localPortDetail := by decide
  have hprotocolWord : SpellsOption "--protocol" "protocol".toList none := ⟨.inl (by decide), by decide, by decide⟩
  have hportWord : SpellsOption "--localport" "localport".toList none := ⟨.inl (by decide), by decide, by decide⟩
  exact .separate hprotocolWord (LongOptions.find_eq_some_iff.mp hprotocol) rfl
    (.separate hportWord (LongOptions.find_eq_some_iff.mp hport) rfl .nil)

theorem mode_words (mode protocol port : String) :
    Says cmdline.generateOptions ["--mode", mode, "--protocol", protocol, "--localport", port]
      [.answered (.option modeDetail (some mode)), .answered (.option protocolDetail (some protocol)),
        .answered (.option localPortDetail (some port))] := by
  have hmode : cmdline.generateOptions.find "mode".toList = some modeDetail := by decide
  have hmodeWord : SpellsOption "--mode" "mode".toList none := ⟨.inl (by decide), by decide, by decide⟩
  exact .separate hmodeWord (LongOptions.find_eq_some_iff.mp hmode) rfl (protocol_words protocol port)

/-- The string for the server holds the first word that is no option. -/
theorem strRemoteServer_eq {argv : List String} {items : List (CommandItem (OptionDetail CmdLineString))}
    (h : Says cmdline.generateOptions (argv.drop 1) items) :
    (parsedStrings argv).1 .strRemoteServer =
      ((nonoptions items).filter fun word => word ≠ "--").head?.getD "" := by
  have hoptions : (optionSettings (answers items)).filter (fun setting => setting.1 = CmdLineString.strRemoteServer) = [] := by
    refine List.filter_eq_nil_iff.mpr fun setting hsetting => ?_
    obtain ⟨answer, hanswer, hput⟩ := List.mem_filterMap.mp hsetting
    cases answer with
    | unknown => cases hput
    | option od optarg =>
      cases hput
      have hod := option_mem h (mem_answers.mp hanswer)
      have hdetails : ∀ od ∈ cmdline.listOptionDetails, od.pStrResult ≠ CmdLineString.strRemoteServer := by decide
      simpa using hdetails od hod
  have hstored := (parseCommandLine_spec 1 h fun _ => "").stored .strRemoteServer
  refine hstored.trans ?_
  unfold lastGiven settings
  rw [List.filter_append, hoptions, List.nil_append]
  cases (nonoptions items).filter fun word => word ≠ "--" with
  | nil => rfl
  | cons first others => cases others <;> rfl

theorem StunMode.name_not_option (mode : StunMode) : ¬TakenForOption mode.name := by
  cases mode
  rw [← optionText_eq_none]
  decide

/-- Behind `--` no word is an option, so the mode stands where a port would. -/
theorem strRemotePort_terminator (applicationRoot : String) {client : StunClient} (h : client.serverIpAddress = "--") :
    (parsedStrings (client.commandLine applicationRoot)).1 .strRemotePort = client.mode.name := by
  have hwords : (client.commandLine applicationRoot).drop 1 = "--" :: ["--mode", client.mode.name, "--protocol",
      client.protocol.name, "--localport", client.port] := by
    rw [← h]
    rfl
  have hmeans := Says.terminator (t := cmdline.generateOptions) ["--mode", client.mode.name, "--protocol",
    client.protocol.name, "--localport", client.port]
  rw [← hwords] at hmeans
  have hname : client.mode.name ≠ "--" := by
    cases client.mode
    decide
  obtain ⟨hanswers, hall⟩ := answers_nonoptions_map (α := OptionDetail CmdLineString) ["--mode", client.mode.name,
    "--protocol", client.protocol.name, "--localport", client.port]
  refine ((parseCommandLine_spec 1 hmeans fun _ => "").stored .strRemotePort).trans ?_
  unfold settings
  rw [hanswers, hall, List.filter_cons_of_pos (by decide), List.filter_cons_of_pos (by simpa using hname)]
  rfl

/-! ## What the program does with them -/

section Program
variable [Platform]

theorem clientMain_returns {host : Host} {argv : List String}
    (h : ∀ result, createConfigFromCommandLine host (ClientCmdLineArgs.ofStrings (parsedStrings argv).1) ≠ .ok result) :
    ∃ code, clientMain host argv = .returned code := by
  unfold clientMain
  split
  · exact ⟨_, rfl⟩
  split
  · exact ⟨_, rfl⟩
  split
  · exact ⟨_, rfl⟩
  cases hconfig : createConfigFromCommandLine host (ClientCmdLineArgs.ofStrings (parsedStrings argv).1) with
  | error hr => exact ⟨_, rfl⟩
  | ok result => exact absurd hconfig (h result)

/-- Without a server, or with a port that is no number, there is no configuration. -/
theorem createConfig_options_good {host : Host} {args : ClientCmdLineArgs}
    {result : StunClientLogicConfig × ClientSocketConfig} (h : createConfigFromCommandLine host args = .ok result) :
    args.strRemoteServer ≠ "" ∧ PortGood args.strRemotePort := by
  obtain ⟨config, socketconfig⟩ := result
  obtain ⟨hgood, -⟩ := createConfigWith_ok h
  exact ⟨hgood.server, hgood.remotePort⟩

theorem atoi_full : atoi "full" = 0 := by
  have hnumber : leadingNumber "full" = 0 := by decide
  have hrange : strtol "full" = 0 := by
    unfold strtol
    rw [hnumber]
    have hpos : (0 : Int) < 2 ^ (Platform.sizeBits - 1) := Int.pow_pos (by decide)
    omega
  rw [atoi, hrange]
  decide

theorem mode_no_port (mode : StunMode) : ¬PortGood mode.name := by
  cases mode
  rw [portGood_iff]
  change ¬("full" = "" ∨ 1 ≤ atoi "full" ∧ atoi "full" ≤ 0xffff)
  rw [atoi_full]
  decide

variable (host : Host) (applicationRoot : String) (client : StunClient)

/-- The server, the mode, the protocol and the port reach the program. -/
theorem clientMain_commandLine (hserver : ¬TakenForOption client.serverIpAddress) :
    clientMain host (client.commandLine applicationRoot) =
      runWith (createConfigFromCommandLine host (testArgs client)) := by
  have hmeans : Says cmdline.generateOptions ((client.commandLine applicationRoot).drop 1)
      [.nonoption client.serverIpAddress, .answered (.option modeDetail (some client.mode.name)),
        .answered (.option protocolDetail (some client.protocol.name)),
        .answered (.option localPortDetail (some client.port))] :=
    .nonoption hserver (mode_words client.mode.name client.protocol.name client.port)
  have hword : client.serverIpAddress ≠ "--" := by
    intro heq
    rw [heq] at hserver
    exact hserver ⟨'-', [], rfl⟩
  have hread := parseCommandLine_spec 1 hmeans fun _ => ""
  have hsettings : cmdline.settings [.nonoption client.serverIpAddress, .answered (.option modeDetail (some client.mode.name)),
        .answered (.option protocolDetail (some client.protocol.name)),
        .answered (.option localPortDetail (some client.port))] =
      [(.strMode, client.mode.name), (.strProtocol, client.protocol.name), (.strLocalPort, client.port),
        (.strRemoteServer, client.serverIpAddress)] := by
    simp [settings, optionSettings, answers, nonoptions, hword, cmdline_namelessArgs, modeDetail, protocolDetail,
      localPortDetail]
  have hstrings : ∀ p, (parsedStrings (client.commandLine applicationRoot)).1 p = _ := hread.stored
  rw [hsettings] at hstrings
  have hflag : (parsedStrings (client.commandLine applicationRoot)).2 ≠ true := by
    intro herror
    have hmem := hread.flagged.mp herror
    simp at hmem
  have hargs : ClientCmdLineArgs.ofStrings (parsedStrings (client.commandLine applicationRoot)).1 = testArgs client := by
    unfold ClientCmdLineArgs.ofStrings
    simp only [hstrings]
    rfl
  have hhelp : (parsedStrings (client.commandLine applicationRoot)).1 .strHelp = "" := hstrings .strHelp
  have hlength : ¬(client.commandLine applicationRoot).length ≤ 1 := by simp [StunClient.commandLine]
  unfold clientMain
  rw [if_neg hlength, if_neg (not_not_intro hhelp), if_neg hflag, hargs]

omit [Platform] in
/-- Behind a text that is taken for an option, the first word that is no option is the mode, if there is one: the
option may take `--mode` for its argument. -/
theorem nonoptions_optionServer {text : List Char} (hne : client.serverIpAddress ≠ "--")
    (htext : optionText client.serverIpAddress.toList = some text) :
    ∃ items, Says cmdline.generateOptions ((client.commandLine applicationRoot).drop 1) items ∧
      (nonoptions items = [] ∨ nonoptions items = [client.mode.name]) := by
  have hrest := mode_words client.mode.name client.protocol.name client.port
  rcases readOption_rest cmdline.generateOptions text ["--mode", client.mode.name, "--protocol", client.protocol.name,
    "--localport", client.port] with hall | ⟨arg, htaken⟩
  · rw [← hall] at hrest
    exact ⟨_, (says_option hne htext).mpr ⟨_, rfl, hrest⟩, .inl rfl⟩
  · have htail : Says cmdline.generateOptions
        [client.mode.name, "--protocol", client.protocol.name, "--localport", client.port] _ :=
      .nonoption (StunMode.name_not_option client.mode) (protocol_words client.protocol.name client.port)
    rw [(List.cons.inj htaken).2] at htail
    exact ⟨_, (says_option hne htext).mpr ⟨_, rfl, htail⟩, .inr rfl⟩

/-- A text for the server that is taken for an option is no server. -/
theorem clientMain_optionServer (hserver : TakenForOption client.serverIpAddress) :
    (∃ code, clientMain host (client.commandLine applicationRoot) = .returned code) ∨
      (parsedStrings (client.commandLine applicationRoot)).1 .strRemoteServer = client.mode.name := by
  by_cases hend : client.serverIpAddress = "--"
  · -- All words are no options then: the mode stands where the port of the server is.
    left
    apply clientMain_returns
    intro result hconfig
    have hgood : PortGood ((parsedStrings (client.commandLine applicationRoot)).1 .strRemotePort) :=
      (createConfig_options_good hconfig).2
    rw [strRemotePort_terminator applicationRoot hend] at hgood
    exact mode_no_port client.mode hgood
  · obtain ⟨text, htext⟩ : ∃ text, optionText client.serverIpAddress.toList = some text := by
      apply Option.ne_none_iff_exists'.mp
      intro hnone
      exact optionText_eq_none.mp hnone hserver
    obtain ⟨items, hmeans, hnone | hmode⟩ := nonoptions_optionServer applicationRoot client hend htext
    · left
      apply clientMain_returns
      intro result hconfig
      have hempty := strRemoteServer_eq hmeans
      rw [hnone] at hempty
      exact (createConfig_options_good hconfig).1 hempty
    · right
      have hname : client.mode.name ≠ "--" := by
        cases client.mode
        decide
      have hfirst := strRemoteServer_eq hmeans
      rw [hmode, List.filter_cons_of_pos (by simpa using hname)] at hfirst
      exact hfirst

/-- For every host and every test, whatever its texts are: the program runs with the options of the test if the text
for the server is not taken for an option. If it is, the program returns a code without a test, or it looks for a
server with the name of the mode. -/
theorem test_process_arguments :
    (¬TakenForOption client.serverIpAddress →
      clientMain host (client.commandLine applicationRoot) =
        runWith (createConfigFromCommandLine host (testArgs client))) ∧
    (TakenForOption client.serverIpAddress →
      (∃ code, clientMain host (client.commandLine applicationRoot) = .returned code) ∨
        (parsedStrings (client.commandLine applicationRoot)).1 .strRemoteServer = client.mode.name) :=
  ⟨clientMain_commandLine host applicationRoot client, clientMain_optionServer host applicationRoot client⟩

end Program

end NatTester.Guarantees
