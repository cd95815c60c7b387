import FormatServer.Command
import FormatServer.Disk.Place
import FormatServer.Server.Wire

/-!
The program: it formats one file, or serves a client until its input ends. It reads the places that
count from the disk and leaves every decision to the definitions that it calls.
-/

namespace FormatServer.Main

/-! ### The disk -/

/-- Every program fails, since none can be started from here. -/
def refuse : Program := fun _ =>
  ⟨126, [], Utf8.encode "programs cannot be started"⟩

def exists? (path : String) : IO Bool := do
  match ← (IO.FS.realPath path).toBaseIO with
  | .ok _ => return true
  | .error _ => return false

def refusal : IO.Error → IoError
  | .permissionDenied .. => .permissionDenied
  | error => .other (toString error)

def readEntry (place : Place) : IO (Option Entry) := do
  match ← (IO.FS.readBinFile place.path.text).toBaseIO with
  | .ok content =>
    let content := content.data.toList
    return some (if place.isProgram then .program content refuse else .file content)
  | .error error =>
    if ← exists? (place.path.text ++ "/.") then return some .directory
    if ← exists? place.path.text then return some (.refused (refusal error))
    return none

def locationOf (path : Path) : Location :=
  (Path.segments path.glyphs).filter fun segment => !Segment.isEmpty segment

/-- Adds what stands at the places to what is known of the disk. -/
def lookAt (environment : Environment) (places : List Place) : IO Environment := do
  let mut disk := environment.disk
  for place in places do
    if let some entry ← readEntry place then
      disk := disk.place (locationOf (environment.directory.path.join place.path).normal) entry
  return { environment with disk }

/-- What is around the program, without its disk. -/
def surroundings : IO Environment := do
  let directory := locationOf (Path.ofString (toString (← IO.currentDir)))
  return {
    disk := Disk.empty.place directory .directory
    directory
    home := (← IO.getEnv "HOME").map Path.ofString
    searchPath := (← IO.getEnv "PATH").map Segment.ofString
    configHome := (← IO.getEnv "XDG_CONFIG_HOME").map Path.ofString }

/-- What is around the program, with all that formatting a file below these directories may look
at under the settings. -/
def observe (directories : List Path) (file : Option Path) (workspace : Environment → Workspace) :
    IO Environment := do
  let environment ← surroundings
  let places := (directories ++ (file.bind Path.parent?).toList).flatMap Place.above
  let environment ← lookAt environment
    (places ++ file.toList.map (⟨·, false⟩) ++ Place.ofUser environment)
  lookAt environment (Place.ofSettings (workspace environment) file)

/-! ### Input -/

/-- Reads to the end of the input, or until as many bytes were read. -/
partial def readBytes (input : IO.FS.Stream) (limit : Option Nat) (before : ByteArray) :
    IO ByteArray := do
  let wanted := (limit.map (· - before.size)).getD 65536
  if wanted = 0 then return before
  let chunk ← input.read (USize.ofNat wanted)
  if chunk.isEmpty then return before
  readBytes input limit (before ++ chunk)

/-- Reads the header of a message for the message's length; none at the end of the input. -/
partial def readHeader (input : IO.FS.Stream) (length : Option Nat) : IO (Option Nat) := do
  let line ← input.getLine
  if line.isEmpty then return none
  if Text.isAllBlank line then return some (length.getD 0)
  readHeader input ((Wire.length? line).or length)

/-- Reads the next message that can be understood; none at the end of the input. -/
partial def readArrival (input : IO.FS.Stream) : IO (Option Arrival) := do
  match ← readHeader input none with
  | none => return none
  | some length =>
    let body ← readBytes input (some length) .empty
    let text := Utf8.text? body.data.toList
    match (text.bind fun text => (Json.read text).toOption).bind Arrival.ofData? with
    | some arrival => return some arrival
    | none => readArrival input

/-! ### Serving -/

/-- The session, the calls that came while a reply was awaited, and the number of requests sent. -/
structure Connection where
  session : Session
  waiting : List Arrival
  sent : Nat

def write (data : Data) : IO Unit := do
  let output ← IO.getStdout
  output.putStr (Wire.framed data)
  output.flush

def perform (number : Nat) : Effect → IO Unit
  | .sent message => write (Wire.message number message)
  | .logged line => IO.eprintln ("[" ++ line.origin.target ++ "] " ++ line.message)

/-- Waits for the client's reply; the calls that come before it are kept for later. -/
partial def awaitReply (input : IO.FS.Stream) (calls : List Arrival) :
    IO (Option String × List Arrival) := do
  match ← readArrival input with
  | some (.reply failure) => return (failure, calls)
  | some call => awaitReply input (calls ++ [call])
  | none => return (some "connection closed", calls)

/-- Carries out a handled message. Whenever it asks the client something the reply is awaited, and
the message is handled anew with what the client answered. -/
partial def carryOut (input : IO.FS.Stream) (connection : Connection)
    (handle : Client → Option Answer × Progress) (answered : Answered) (done : Nat) :
    IO (Option Answer × Connection) := do
  let (answer, progress) := handle answered.client
  let (effects, pending) := answered.split progress.effects
  for effect in effects.drop done do
    perform connection.sent effect
  match pending with
  | none => return (answer, { connection with session := progress.session })
  | some request =>
    let (failure, calls) ← awaitReply input connection.waiting
    carryOut input { connection with waiting := calls, sent := connection.sent + 1 } handle
      (answered ++ [(request, failure)]) effects.length

/-- What is around the program, as far as it counts for a session that receives a message. -/
def observeFor (session : Session) (incoming : Option Incoming) : IO Environment := do
  let named := (incoming.toList.flatMap Incoming.folders).filterMap Uri.path?
  let environment ← surroundings
  observe (environment.directory.path :: session.root.toList ++ session.folders ++ named)
    (incoming.bind fun incoming => incoming.document?.bind Uri.path?) fun _ => session.workspace

partial def serve (input : IO.FS.Stream) (connection : Connection) : IO Unit := do
  let (next, connection) ← match connection.waiting with
    | first :: rest => pure (some first, { connection with waiting := rest })
    | [] => do pure (← readArrival input, connection)
  match next with
  | none => return
  | some (.reply _) => serve input connection
  | some (.call id method parameters) =>
    if method = "exit" then return
    let environment ← observeFor connection.session (Incoming.read? method parameters).join
    let handle := fun client => connection.session.receive environment client method parameters
    let (answer, connection) ← carryOut input connection handle [] 0
    if let some id := id then
      write (Wire.answer id (answer.getD .unknownMethod))
    serve input connection

/-! ### Commands -/

def formatFile (command : Command.FormatCommand) : IO UInt32 := do
  let around ← surroundings
  let file := Command.absolutePath around.directory command.file
  let environment ← observe [around.directory.path] (some file) Command.workspace
  let input ← if command.readsInput then readBytes (← IO.getStdin) none .empty else pure .empty
  let exit := Command.formatFile environment command input.data.toList
  IO.print exit.output
  IO.eprint exit.errors
  return UInt32.ofNat exit.code

def run (args : List String) : IO UInt32 := do
  match Command.read args with
  | .error error =>
    IO.eprintln error.message
    return 2
  | .ok .version =>
    IO.println (serverName ++ " " ++ serverVersion)
    return 0
  | .ok .help =>
    IO.print Command.helpText
    return 0
  | .ok (.format command) => formatFile command
  | .ok .serve =>
    serve (← IO.getStdin) ⟨.initial, [], 0⟩
    return 0

end FormatServer.Main

def main (args : List String) : IO UInt32 :=
  FormatServer.Main.run args
