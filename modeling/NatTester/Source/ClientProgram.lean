import NatTester.Source.ClientMain
import NatTester.Source.CmdLineParser
import NatTester.Source.CommandLine
import NatTester.Source.StunTester

/-!
# The client program

`main` of `clientmain.cpp`, up to the loop it enters, what `logger.cpp` prints of its
report, and the command line with which `StunClient.java` runs it. The help texts are
left out, and so is the level of the log, on which nothing that is modelled depends.
-/
namespace NatTester.Source
open NatTester.Lib

/-- The strings of `ClientCmdLineArgs`. -/
inductive CmdLineString where
  | strRemoteServer
  | strRemotePort
  | strLocalAddr
  | strLocalPort
  | strMode
  | strFamily
  | strProtocol
  | strVerbosity
  | strHelp
  deriving DecidableEq, Repr

/-- What `CreateConfigFromCommandLine` reads of the strings. -/
def ClientCmdLineArgs.ofStrings (strings : CmdLineString → String) : ClientCmdLineArgs where
  strRemoteServer := strings .strRemoteServer
  strRemotePort := strings .strRemotePort
  strLocalAddr := strings .strLocalAddr
  strLocalPort := strings .strLocalPort
  strMode := strings .strMode
  strFamily := strings .strFamily
  strProtocol := strings .strProtocol

def no_argument : Int := 0
def required_argument : Int := 1

/-- `cmdline`, as `main` fills it. -/
def cmdline : CCmdLineParser CmdLineString :=
  let cmdline := CCmdLineParser.new.addNonOption .strRemoteServer
  let cmdline := cmdline.addNonOption .strRemotePort
  let cmdline := (cmdline.addOption "localaddr" required_argument .strLocalAddr).2
  let cmdline := (cmdline.addOption "localport" required_argument .strLocalPort).2
  let cmdline := (cmdline.addOption "mode" required_argument .strMode).2
  let cmdline := (cmdline.addOption "family" required_argument .strFamily).2
  let cmdline := (cmdline.addOption "protocol" required_argument .strProtocol).2
  let cmdline := (cmdline.addOption "verbosity" required_argument .strVerbosity).2
  (cmdline.addOption "help" no_argument .strHelp).2

theorem cmdline_namelessArgs : cmdline.namelessArgs = [.strRemoteServer, .strRemotePort] := rfl

/-- The strings of `args` behind `ParseCommandLine`, and `fError`. -/
def parsedStrings (argv : List String) : (CmdLineString → String) × Bool :=
  cmdline.parseCommandLine argv 1 fun _ => ""

/-- What `main` does: it returns a code, or enters a loop and then returns 0. -/
inductive ClientRun where
  | returned (code : Int)
  | tcpClientLoop (config : StunClientLogicConfig) (socketconfig : ClientSocketConfig)
  | udpClientLoop (config : StunClientLogicConfig) (socketconfig : ClientSocketConfig)

/-- `main`, once `CreateConfigFromCommandLine` has returned. -/
def runWith : Except HRESULT (StunClientLogicConfig × ClientSocketConfig) → ClientRun
  | .error _ => .returned (-4)
  | .ok (config, socketconfig) =>
    if socketconfig.socktype = .stream then .tcpClientLoop config socketconfig else .udpClientLoop config socketconfig

/-- `main` -/
def clientMain [Platform] (host : Host) (argv : List String) : ClientRun :=
  if argv.length ≤ 1 then .returned (-1)
  else if (parsedStrings argv).1 .strHelp ≠ "" then .returned (-2)
  else if (parsedStrings argv).2 = true then .returned (-3)
  else runWith (createConfigFromCommandLine host (ClientCmdLineArgs.ofStrings (parsedStrings argv).1))

/-- The command line of `execute`. -/
def StunClient.commandLine (applicationRoot : String) (client : StunClient) : List String :=
  [applicationRoot ++ "/bin/stunclient", client.serverIpAddress, "--mode", client.mode.name,
    "--protocol", client.protocol.name, "--localport", client.port]

/-! ## Its output -/

/-- `vprintf`, for a format with one `%s`. -/
def vprintf (argument : List Char) : List Char → List Char
  | [] => []
  | '%' :: 's' :: rest => argument ++ rest
  | ch :: rest => ch :: vprintf argument rest

/-- The line of a call of `LogMsg`. -/
def LogMsg.line (m : LogMsg) : List Char := vprintf m.argument.toList m.pszFormat.toList

/-- What `VPrintMsg` has written to `stdout`. -/
def stdoutOf (printed : List LogMsg) : String := String.ofList (printed.flatMap fun m => m.line ++ ['\n'])

end NatTester.Source
