import TrafficCone.KernelProcesses
import TrafficCone.ProcessMonitoring

namespace TrafficCone.SocketTables

open TrafficCone.Outcomes
open TrafficCone.TextScanning
open TrafficCone.ProcReaders
open TrafficCone.ProcessMonitoring
open TrafficCone.KernelProcesses

/-- A row of `/proc/net/tcp` or `tcp6`; its remote address is one the monitor can read. -/
structure Row (ipv6 : Bool) where
  slot : ProcField
  localAddress : ProcField
  remoteAddress : ProcField
  state : ProcField
  /-- The queues, the timer, the retransmissions, the user and the timeout. -/
  counters : Fin 5 → ProcField
  inode : Nat
  rest : List ProcField
  remoteIp : String
  remotePort : Nat
  readable : parseHexAddr remoteAddress.letters ipv6 = .ok (some (remoteIp, remotePort))

namespace Row

variable {ipv6 : Bool}

/-- The socket that a row stands for: all of it but the number of its slot. -/
def socket (row : Row ipv6) : List ProcField :=
  row.localAddress :: row.remoteAddress :: row.state ::
    (List.ofFn row.counters ++ numberField row.inode :: row.rest)

def line (row : Row ipv6) : List Char :=
  (row.slot :: row.socket).flatMap fun field => ' ' :: field.letters

def connection (row : Row ipv6) : Option Connection :=
  if row.state.letters = ['0', '1'] then
    some { remoteIp := row.remoteIp, remotePort := row.remotePort, state := .established }
  else none

end Row

/-- The first line of a table, which is not read. -/
structure Header where
  letters : List Char
  oneLine : '\n' ∉ letters

def tableText {ipv6 : Bool} (header : Header) (rows : List (Row ipv6)) : String :=
  String.ofList (header.letters ++ '\n' :: rows.flatMap fun row => row.line ++ ['\n'])

/-- The TCP sockets of a network namespace, in the order in which the kernel lists them. -/
structure Tables where
  header : Header
  header6 : Header
  tcp : List (Row false)
  tcp6 : List (Row true)

/-- The system, in a network namespace with these sockets. -/
def withTables (system : System) (tables : Tables) : System :=
  { system with
    netTcp := fun _ => some (tableText tables.header tables.tcp)
    netTcp6 := fun _ => some (tableText tables.header6 tables.tcp6) }

def connectionsOf (tables : Tables) : List Connection :=
  tables.tcp.filterMap Row.connection ++ tables.tcp6.filterMap Row.connection

section Reading

variable {ipv6 : Bool}

theorem splitWhitespace_line (row : Row ipv6) :
    splitWhitespace row.line = (row.slot :: row.socket).map (·.letters) := by
  rw [← splitWhitespace_fieldsText, fieldsText, splitWhitespace_append_gap (by decide), Row.line]

theorem not_mem_line (row : Row ipv6) {letter : Char} (hspace : letter ≠ ' ')
    (hgap : isWhitespace letter = true) : letter ∉ row.line := by
  rw [Row.line, List.mem_flatMap]
  rintro ⟨field, -, hmem⟩
  rcases List.mem_cons.mp hmem with hletter | hletter
  · exact hspace hletter
  · rw [(field.plain letter hletter).1] at hgap
    cases hgap

theorem lines_rows (rows : List (Row ipv6)) :
    lines (rows.flatMap fun row => row.line ++ ['\n']) = rows.map Row.line := by
  induction rows with
  | nil => rfl
  | cons row rows ih =>
      rw [List.flatMap_cons, List.append_assoc, List.singleton_append,
        lines_cons (not_mem_line row (by decide) (by decide)), ih, List.map_cons,
        stripCarriageReturn_of_not_mem (not_mem_line row (by decide) (by decide))]

theorem lines_tableText (header : Header) (rows : List (Row ipv6)) :
    (lines (tableText header rows).toList).drop 1 = rows.map Row.line := by
  rw [tableText, String.toList_ofList, lines_cons header.oneLine, lines_rows]
  rfl

theorem readTcpLines_rows (rows : List (Row ipv6)) :
    readTcpLines ipv6 (rows.map Row.line) = .ok (rows.filterMap Row.connection) := by
  induction rows with
  | nil => rfl
  | cons row rows ih =>
      rw [List.map_cons, readTcpLines, splitWhitespace_line, Row.socket]
      simp only [List.map_cons, row.readable, ih]
      rw [List.filterMap_cons, Row.connection]
      by_cases hstate : row.state.letters = ['0', '1']
      · simp [hstate]
      · simp [hstate]

/-- The connections of any process of the namespace are the established ones of all the
sockets in it. -/
theorem getConnections_withTables (system : System) (tables : Tables) (pid : Nat) :
    getConnections (withTables system tables) pid = .ok (connectionsOf tables) := by
  have htcp : readProcNetTcp (withTables system tables) pid false =
      .ok (tables.tcp.filterMap Row.connection) := by
    change readTcpLines false ((lines (tableText tables.header tables.tcp).toList).drop 1) = _
    rw [lines_tableText, readTcpLines_rows]
  have htcp6 : readProcNetTcp (withTables system tables) pid true =
      .ok (tables.tcp6.filterMap Row.connection) := by
    change readTcpLines true ((lines (tableText tables.header6 tables.tcp6).toList).drop 1) = _
    rw [lines_tableText, readTcpLines_rows]
  rw [getConnections, extendConnections, htcp]
  dsimp only
  rw [List.nil_append, Outcome.ok_bind, extendConnections, htcp6]
  rfl

end Reading

end TrafficCone.SocketTables
