import RespStore.Server
import RespStore.Settings.CommandLine

set_option autoImplicit false

namespace RespStore.Main

open RespStore

/-- One line for each flag. -/
def helpText : String :=
  let flag (field : Settings.Field) : String :=
    "      " ++ field.declared.usage ++ " [env: " ++ field.variableName ++ "]"
  "\n".intercalate <|
    ["A small RESP2 key/value server", "", "Usage: respkv [OPTIONS]", "", "Options:"] ++
      Settings.Field.all.map flag ++ ["  -h, --help", "  -V, --version"]

/-- The environment variables that stand for settings, as far as they are set. -/
def readEnvironment : IO (List (String × String)) := do
  let pairs ← Settings.Field.all.mapM fun field => do
    return (field.variableName, ← IO.getEnv field.variableName)
  return pairs.filterMap fun (name, value) => value.map fun v => (name, v)

/-- Hands input to the client's connection and its replies to the output until either side ends. -/
partial def serve (server : Server) (client : Nat) (input output : IO.FS.Stream) : IO Unit := do
  let chunk ← input.read (USize.ofNat (max 1 server.readBuffer))
  let (reply, next) := (server.receive client [chunk.toList]).readToEnd client
  output.write ⟨reply.toArray⟩
  output.flush
  match next.client? client with
  | some ⟨_, false⟩ => serve next client input output
  | _ => return

end RespStore.Main

open RespStore in
/-- Exits with 2 if the command line is refused and with 1 if the server cannot start. -/
def main (arguments : List String) : IO UInt32 := do
  let environment ← RespStore.Main.readEnvironment
  match Settings.parse arguments fun name => environment.lookup name with
  | .error .help => IO.println RespStore.Main.helpText; return 0
  | .error .version => IO.println CommandLine.Refusal.version.message; return 0
  | .error refusal => IO.eprintln refusal.message; return 2
  | .ok settings =>
    match Server.start .loopback settings with
    | .error error => IO.eprintln ("Error: " ++ error.message); return 1
    | .ok server =>
      match server.connect with
      | .error _ => return 1
      | .ok (client, server) =>
        RespStore.Main.serve server client (← IO.getStdin) (← IO.getStdout)
        return 0
