import RemoteNotebook.Exchange.Message
import RemoteNotebook.Program
import Std.Async.DNS
import Std.Async.TCP
import Std.Time.DateTime.Timestamp

/-!
The program on the standard streams, the clock, the files and the network. What is done and said is
decided by the dialogues of the library; here each of their requests is carried out. Connections
are plain ones: an endpoint that wants another kind counts as one that cannot be reached.
-/

namespace RemoteNotebook.Main

def byteArray (bytes : List UInt8) : ByteArray := ⟨bytes.toArray⟩

def socketAddress (address : Std.Net.IPAddr) (port : UInt16) : Std.Net.SocketAddress :=
  match address with
  | .v4 a => .v4 ⟨a, port⟩
  | .v6 a => .v6 ⟨a, port⟩

/-- Everything that comes until the other side closes the connection. -/
partial def receiveAll (client : Std.Async.TCP.Socket.Client) (received : ByteArray) :
    Std.Async.Async ByteArray := do
  match ← client.recv? 65536 with
  | some bytes => receiveAll client (received ++ bytes)
  | none => return received

def connectAny (port : UInt16) :
    List Std.Net.IPAddr → Std.Async.Async Std.Async.TCP.Socket.Client
  | [] => throw (IO.userError "nothing listens")
  | address :: others => do
    let client ← Std.Async.TCP.Socket.Client.mk
    try
      client.connect (socketAddress address port)
      return client
    catch _ => connectAny port others

/-- The name or number of a host as it is looked up, without brackets. -/
def lookupName (host : Endpoint.Host) : String :=
  String.ofList (host.text.toList.filter fun c => c != '[' && c != ']')

def connect (host : Endpoint.Host) (port : Nat) :
    Std.Async.Async Std.Async.TCP.Socket.Client := do
  let addresses ← Std.Async.DNS.getAddrInfo (lookupName host) (Decimal.nat port)
  connectAny port.toUInt16 addresses.toList

def converse (client : Std.Async.TCP.Socket.Client) (request : List UInt8) :
    IO Exchange.Answer := do
  try
    (client.send (byteArray request)).block
    return .ofBytes (← (receiveAll client ByteArray.empty).block).toList
  catch _ => return .dropped

def travel (t : Exchange.Trip) : IO Exchange.Answer := do
  match t.address.scheme, t.address.host, t.address.knownPort? with
  | "http", some host, some port =>
    try converse (← (connect host port).block) t.bytes
    catch _ => return .refused
  | _, _, _ => return .refused

def send (endpoint : Endpoint) (sql : String) : IO Outcome :=
  (Exchange.query endpoint sql).runIn travel

def newId : IO Int64 := do
  let now ← Std.Time.Timestamp.now
  return Note.idAt now.toMillisecondsSinceUnixEpoch.val

def put (text : String) : IO Unit := do
  let out ← IO.getStdout
  out.putStr text
  out.flush

/-- The bytes of the next line, with its line feed. -/
partial def readLine (input : IO.FS.Stream) (line : List UInt8) : IO (List UInt8) := do
  let bytes ← input.read 1
  match bytes.toList with
  | [] => return line.reverse
  | b :: _ => if b = 10 then return (b :: line).reverse else readLine input (b :: line)

def prompt (label : String) : IO (Except Failure (Option String)) := do
  put label
  return Terminal.lineText (← readLine (← IO.getStdin) [])

def call (assumeYes : Bool) : (c : Call) → IO (Except Failure c.Answer)
  | .setStatus s => do
    put (Terminal.textOf [Terminal.statusLine s])
    return .ok ()
  | .showNotes l => do
    put (Terminal.textOf (Terminal.listingLines l))
    return .ok ()
  | .alert m => do
    IO.eprint (Terminal.textOf [m])
    return .ok ()
  | .confirm p =>
    if assumeYes then return .ok true
    else do
      let answer ← prompt (Terminal.questionLabel p)
      return answer.map (·.any Terminal.isYes)

def respond (endpoint : Endpoint) (assumeYes : Bool) : (q : Console.Request) → IO q.Answer
  | .session (.send query) => send endpoint query.text
  | .session .newId => newId
  | .session (.call c) => call assumeYes c
  | .prompt label => prompt label
  | .say line => do
    put (Terminal.textOf [line])
    return .ok ()
  | .showReply r => do
    match r.error with
    | some e => IO.eprint (Terminal.textOf [Terminal.errorLine e])
    | none => put (Terminal.textOf (Terminal.replyLines r))
    return .ok ()

def respondOnPage (endpoint : Endpoint) : (q : Session.Request) → StateT Page IO q.Answer
  | .send query => send endpoint query.text
  | .newId => newId
  | .call c => modifyGet (Page.surface c)

def take {α : Type} (settings : Settings) (assumeYes : Bool) (step : Console.Step α)
    (form : Form) : IO (Except Failure α × Form) :=
  (step form).runIn (respond settings.endpoint assumeYes)

partial def turns (settings : Settings) (form : Form) : IO (Except Failure Program.Exit) := do
  match ← take settings false (Shell.turn settings.table) form with
  | (.error e, _) => return .error e
  | (.ok .leave, _) => return .ok .success
  | (.ok .again, form) => turns settings form

def shell (settings : Settings) : IO (Except Failure Program.Exit) := do
  match ← take settings false (Shell.opening settings.table) {} with
  | (.error e, _) => return .error e
  | (.ok (), form) => turns settings form

def fileFault (other : String → FileFault) : IO.Error → FileFault
  | .noFileOrDirectory _ _ _ => .notFound
  | .invalidArgument _ 36 _ => .nameTooLong
  | .inappropriateType _ 20 _ => .notADirectory
  | .inappropriateType _ _ _ => .isDirectory
  | .permissionDenied _ _ _ => other "Permission denied (os error 13)"
  | e => other e.toString

def readFile (path : String) : IO FileBytes := do
  try return .ok (← IO.FS.readBinFile path).toList
  catch e =>
    -- a file that cannot be read is there nevertheless if the path to it can be followed
    try
      discard (IO.FS.realPath path)
      return .error (fileFault .other e)
    catch _ => return .error (fileFault .unresolved e)

def writeFile (path text : String) : IO (Except FileFault Unit) := do
  try
    IO.FS.writeBinFile path text.toUTF8
    return .ok ()
  catch e => return .error (fileFault .other e)

def render (settings : Settings) (output : Option String) :
    IO (Except Failure Program.Exit) := do
  let refresh := (Session.refresh settings.table).run.run {}
  let ((result, form), page) ← (refresh.runIn (respondOnPage settings.endpoint)).run {}
  match result, output with
  | .error e, _ => return .error e
  | .ok _, none =>
    put (page.text form)
    return .ok .success
  | .ok _, some path =>
    match ← writeFile path (page.text form) with
    | .error fault => return .error (.file fault)
    | .ok () =>
      IO.eprint (Program.wrote path)
      return .ok .success

def perform (settings : Settings) : Command → IO (Except Failure Program.Exit)
  | .init => (·.1) <$> take settings false (Program.initStep settings.table) {}
  | .list => (·.1) <$> take settings false (Program.listStep settings.table) {}
  | .add title content =>
    (·.1) <$> take settings false (Program.addStep settings.table title content) {}
  | .delete id yes => (·.1) <$> take settings yes (Program.deleteStep settings.table id) {}
  | .render output => render settings output
  | .sql statement => (·.1) <$> take settings false (Program.sqlStep statement) {}
  | .shell => shell settings

def homeFile : IO FileBytes := do
  match (← IO.getEnv "HOME").filter (!·.isEmpty) with
  | some home => readFile (home ++ "/" ++ Settings.homePath)
  | none => return .error .notFound

def run (line : CommandLine) : IO (Except Failure Program.Exit) := do
  let named ← line.config.mapM readFile
  match Program.settings named (← homeFile) line with
  | .error e => return .error e
  | .ok settings => perform settings line.command

def start (arguments : List String) : IO UInt32 := do
  match CommandLine.parse arguments with
  | .error .misuse =>
    IO.eprint Program.usage
    return 2
  | .error .help =>
    put Program.usage
    return 0
  | .error .version =>
    put Program.version
    return 0
  | .ok line =>
    match ← run line with
    | .ok exit => return exit.code.toUInt32
    | .error e =>
      IO.eprint (Program.farewell e)
      return 1

end RemoteNotebook.Main

def main (arguments : List String) : IO UInt32 := RemoteNotebook.Main.start arguments
