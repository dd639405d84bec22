import TrafficCone.Outcomes
import TrafficCone.TextScanning

namespace TrafficCone.ProcReaders

open TrafficCone.Outcomes
open TrafficCone.HexadecimalText
open TrafficCone.TextScanning

/-- The target of `/proc/PID/exe`, which need not be valid UTF-8. -/
inductive ExeLink where
  | path (text : String)
  | invalidUtf8
  deriving DecidableEq, Repr

/-- What the daemon can read of the running system: the files of a process by
its PID, and any file by its path. -/
structure System where
  stat : Nat → Option String
  exe : Nat → Except String ExeLink
  netTcp : Nat → Option String
  netTcp6 : Nat → Option String
  file : String → Except String (List UInt8)

def readExePath (system : System) (pid : Nat) : Outcome String String :=
  match system.exe pid with
  | .error error =>
      .err ("failed to read /proc/" ++ toString pid ++ "/exe: " ++ error ++
        " — process may have exited or permission denied")
  | .ok .invalidUtf8 =>
      .err ("exe path for PID " ++ toString pid ++ " contains invalid UTF-8")
  | .ok (.path text) => .ok text

/-- The start time of a process, read behind the last closing parenthesis of its
stat line. -/
def readProcessStartTime (system : System) (pid : Nat) : Outcome String Nat :=
  match system.stat pid with
  | none => .err ("process " ++ toString pid ++ " not found")
  | some stat =>
      match afterLast ')' stat.toList with
      | none => .err ("malformed /proc/" ++ toString pid ++ "/stat")
      | some afterComm =>
          -- The slice skips one byte; it panics at the end or inside a letter.
          match takeBytes afterComm 1 with
          | none => .panicked
          | some (_, rest) =>
              Outcome.ofOption
                ("failed to parse start time from /proc/" ++ toString pid ++ "/stat")
                ((splitWhitespace rest)[19]?.bind (parseUnsigned 10 (2 ^ 64)))

def swapBytes (word : Nat) : Nat :=
  word % 256 * 2 ^ 24 + word / 2 ^ 8 % 256 * 2 ^ 16 + word / 2 ^ 16 % 256 * 2 ^ 8 +
    word / 2 ^ 24 % 256

def fromBigEndian (word : Nat) : Nat := swapBytes word

/-- The four words of an IPv6 address, eight digits each. A slice that is not at
a letter's boundary panics; digits that do not parse end the loop. -/
def readAddressWords : Nat → List Char → Outcome String (Option (List Nat))
  | 0, _ => .ok (some [])
  | count + 1, letters =>
      match takeBytes letters 8 with
      | none => .panicked
      | some (digits, rest) =>
          match parseUnsigned 16 (2 ^ 32) digits with
          | none => .ok none
          | some word =>
              match readAddressWords count rest with
              | .ok words =>
                  .ok (words.map fun words => fromBigEndian (swapBytes word) :: words)
              | .err error => .err error
              | .panicked => .panicked

def groupsOfFour : Nat → List Char → List String
  | 0, _ => []
  | count + 1, letters => String.ofList (letters.take 4) :: groupsOfFour count (letters.drop 4)

def formatIpv6 (words : List Nat) : String :=
  ":".intercalate (groupsOfFour 8 (words.flatMap (hexPadded 8)))

def formatIpv4 (word : Nat) : String :=
  toString (word % 256) ++ "." ++ toString (word / 2 ^ 8 % 256) ++ "." ++
    toString (word / 2 ^ 16 % 256) ++ "." ++ toString (word / 2 ^ 24 % 256)

def parseHexAddr (addr : List Char) (ipv6 : Bool) : Outcome String (Option (String × Nat)) :=
  match splitOnce ':' addr with
  | none => .ok none
  | some (addrPart, portPart) =>
      match parseUnsigned 16 (2 ^ 16) portPart with
      | none => .ok none
      | some port =>
          if ipv6 then
            if byteLength addrPart ≠ 32 then .ok none
            else
              match readAddressWords 4 addrPart with
              | .ok words => .ok (words.map fun words => (formatIpv6 words, port))
              | .err error => .err error
              | .panicked => .panicked
          else if byteLength addrPart ≠ 8 then .ok none
          else .ok ((parseUnsigned 16 (2 ^ 32) addrPart).map fun word => (formatIpv4 word, port))

inductive ConnectionState where
  | established
  | other
  deriving DecidableEq, Repr

structure Connection where
  remoteIp : String
  remotePort : Nat
  state : ConnectionState
  deriving DecidableEq, Repr

def readTcpLines (ipv6 : Bool) : List (List Char) → Outcome String (List Connection)
  | [] => .ok []
  | line :: rest =>
      match splitWhitespace line with
      | _ :: _ :: remoteAddr :: state :: _ =>
          if state = ['0', '1'] then
            match parseHexAddr remoteAddr ipv6 with
            | .ok (some (ip, port)) =>
                match readTcpLines ipv6 rest with
                | .ok connections =>
                    .ok ({ remoteIp := ip, remotePort := port, state := .established } ::
                      connections)
                | .err error => .err error
                | .panicked => .panicked
            | .ok none => readTcpLines ipv6 rest
            | .err error => .err error
            | .panicked => .panicked
          else readTcpLines ipv6 rest
      | _ => readTcpLines ipv6 rest

/-- The established connections in `/proc/PID/net/tcp` or `tcp6`, in the order of
the table. -/
def readProcNetTcp (system : System) (pid : Nat) (ipv6 : Bool) :
    Outcome String (List Connection) :=
  match if ipv6 then system.netTcp6 pid else system.netTcp pid with
  | none => .ok []
  | some content => readTcpLines ipv6 ((lines content.toList).drop 1)

/-- A system, to run the model on, in which the listed PIDs run the listed
executables and no connection is open. -/
def quietSystem (running : List (Nat × String)) (files : List (String × List UInt8)) : System where
  stat pid := (running.lookup pid).map fun _ =>
    toString pid ++ " (app) S 1 1 1 0 -1 0 0 0 0 0 0 0 0 0 20 0 1 0 500 0"
  exe pid :=
    match running.lookup pid with
    | some path => .ok (.path path)
    | none => .error "No such file or directory (os error 2)"
  netTcp pid := (running.lookup pid).map fun _ => "  sl  local_address rem_address   st\n"
  netTcp6 pid := (running.lookup pid).map fun _ => "  sl  local_address remote_address st\n"
  file path :=
    match files.lookup path with
    | some bytes => .ok bytes
    | none => .error "No such file or directory (os error 2)"

end TrafficCone.ProcReaders
