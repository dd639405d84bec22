import Mathlib.Data.Fintype.EquivFin
import TrafficCone.FirstDestination
import TrafficCone.SocketTables

namespace TrafficCone.ForeignSockets

open TrafficCone.Outcomes
open TrafficCone.StoreModels
open TrafficCone.LinkedCrates
open TrafficCone.ProcReaders
open TrafficCone.ProcessMonitoring
open TrafficCone.RouteResolution
open TrafficCone.PidRouting
open TrafficCone.KernelProcesses
open TrafficCone.SocketTables
open TrafficCone.FirstDestination

/-- Two systems agree on a process: on its start time, its executable and the hash of
its file. -/
structure SameProcess (crates : Crates) (pid : Nat) (first second : System) : Prop where
  startTime : readProcessStartTime first pid = readProcessStartTime second pid
  exePath : readExePath first pid = readExePath second pid
  exeHash : ∀ exePath, readExePath first pid = .ok exePath →
    hashFile crates first exePath = hashFile crates second exePath

/-- The rows of the sockets with the inodes that a process has open. -/
def ownRows {ipv6 : Bool} (owned : List Nat) (rows : List (Row ipv6)) : List (Row ipv6) :=
  rows.filter fun row => row.inode ∈ owned

def ownTables (owned : List Nat) (tables : Tables) : Tables :=
  { tables with
    tcp := ownRows owned tables.tcp
    tcp6 := ownRows owned tables.tcp6 }

/-- Two tables list the same sockets of the process in the same order, whatever sockets
of other processes stand between them. -/
def SameOwnSockets (owned : List Nat) (first second : Tables) : Prop :=
  (ownTables owned first).tcp.map Row.socket = (ownTables owned second).tcp.map Row.socket ∧
    (ownTables owned first).tcp6.map Row.socket = (ownTables owned second).tcp6.map Row.socket

/-- The sockets of other processes have no influence on how a PID is routed. -/
def IgnoresForeignSockets (crates : Crates) (system : System) (tables : Tables)
    (owned : List Nat) (store : Store) (pid : Nat) (knownHashes : KnownHashes)
    (cache : Cache) : Prop :=
  ∀ system' tables', SameProcess crates pid system system' → SameOwnSockets owned tables tables' →
    (resolveForPid crates (withTables system' tables') store pid knownHashes cache).1 =
      (resolveForPid crates (withTables system tables) store pid knownHashes cache).1

/-- An address that a row of a table can name. -/
def Nameable (ipv6 : Bool) (ip : String) : Prop := ∃ row : Row ipv6, row.remoteIp = ip

def ownDestination (database : Database) (exePath : String) (own : Tables) : Option String :=
  firstDestination database exePath (connectionsOf own)

/-- Of all addresses that a table can name, at most that of the process's own first
destination has a route; addresses of the second table matter only if none of its own
connections in the first has a route. -/
def OnlyOwnDestination (database : Database) (exePath : String) (own : Tables) : Prop :=
  (∀ ip, Nameable false ip → routable database exePath ip = true →
    ownDestination database exePath own = some ip) ∧
  (firstDestination database exePath (own.tcp.filterMap Row.connection) = none →
    ∀ ip, Nameable true ip → routable database exePath ip = true →
      ownDestination database exePath own = some ip)

section Congruence

theorem connection_eq_of_socket {ipv6 : Bool} {first second : Row ipv6}
    (h : first.socket = second.socket) : first.connection = second.connection := by
  rw [Row.socket, Row.socket] at h
  injection h with _ h
  injection h with hremote h
  injection h with hstate _
  have hread := first.readable
  rw [hremote, second.readable, Outcome.ok.injEq, Option.some.injEq, Prod.mk.injEq] at hread
  rw [Row.connection, Row.connection, hstate, hread.1, hread.2]

theorem connections_eq_of_sockets {ipv6 : Bool} {first second : List (Row ipv6)}
    (h : first.map Row.socket = second.map Row.socket) :
    first.filterMap Row.connection = second.filterMap Row.connection := by
  induction first generalizing second with
  | nil =>
      rw [List.map_nil, eq_comm, List.map_eq_nil_iff] at h
      rw [h]
  | cons row first ih =>
      cases second with
      | nil => cases h
      | cons other second =>
          rw [List.map_cons, List.map_cons, List.cons.injEq] at h
          rw [List.filterMap_cons, List.filterMap_cons, connection_eq_of_socket h.1, ih h.2]

theorem resolve_congr {crates : Crates} {pid : Nat} {first second : System}
    (h : SameProcess crates pid first second) (cache : Cache) :
    resolve crates first pid cache = resolve crates second pid cache := by
  have hexamine : ∀ startTime, examine crates first pid startTime =
      examine crates second pid startTime := by
    intro startTime
    rw [examine, examine, ← h.exePath]
    cases hexePath : readExePath first pid with
    | err error => rfl
    | panicked => rfl
    | ok exePath => rw [Outcome.ok_bind, Outcome.ok_bind, h.exeHash exePath hexePath]
  rw [resolve, resolve, h.startTime]
  cases readProcessStartTime second pid with
  | err error => rfl
  | panicked => rfl
  | ok startTime =>
      dsimp only
      rw [hexamine]

end Congruence

section Destinations

variable {database : Database} {exePath : String}

theorem firstDestination_append (first second : List Connection) :
    firstDestination database exePath (first ++ second) =
      (firstDestination database exePath first).or (firstDestination database exePath second) := by
  rw [firstDestination, List.map_append, List.find?_append]
  rfl

theorem nameable_of_firstDestination {ipv6 : Bool} {rows : List (Row ipv6)} {ip : String}
    (h : firstDestination database exePath (rows.filterMap Row.connection) = some ip) :
    Nameable ipv6 ip ∧ routable database exePath ip = true := by
  refine ⟨?_, List.find?_some h⟩
  obtain ⟨connection, hconnection, rfl⟩ := List.mem_map.mp (List.mem_of_find?_eq_some h)
  obtain ⟨row, -, hrow⟩ := List.mem_filterMap.mp hconnection
  rw [Row.connection] at hrow
  split at hrow
  · obtain rfl := Option.some.inj hrow
    exact ⟨row, rfl⟩
  · cases hrow

theorem firstDestination_own_eq_none {ipv6 : Bool} {rows : List (Row ipv6)}
    (h : firstDestination database exePath (rows.filterMap Row.connection) = none)
    (owned : List Nat) :
    firstDestination database exePath ((ownRows owned rows).filterMap Row.connection) = none := by
  rw [firstDestination, List.find?_eq_none] at h ⊢
  intro ip hip
  apply h ip
  obtain ⟨connection, hconnection, rfl⟩ := List.mem_map.mp hip
  obtain ⟨row, hrow, hconnected⟩ := List.mem_filterMap.mp hconnection
  exact List.mem_map.mpr ⟨connection,
    List.mem_filterMap.mpr ⟨row, (List.mem_filter.mp hrow).1, hconnected⟩, rfl⟩

/-- Where no foreign address has a route, the first destination is the process's own. -/
theorem firstDestination_eq_own {owned : List Nat} {tables : Tables}
    (h : OnlyOwnDestination database exePath (ownTables owned tables)) :
    firstDestination database exePath (connectionsOf tables) =
      ownDestination database exePath (ownTables owned tables) := by
  rw [connectionsOf, firstDestination_append]
  cases hfirst : firstDestination database exePath (tables.tcp.filterMap Row.connection) with
  | some ip =>
      obtain ⟨hnameable, hroutable⟩ := nameable_of_firstDestination hfirst
      rw [h.1 ip hnameable hroutable]
      rfl
  | none =>
      have hown := firstDestination_own_eq_none hfirst owned
      rw [Option.none_or]
      cases hsecond : firstDestination database exePath
          (tables.tcp6.filterMap Row.connection) with
      | some ip =>
          obtain ⟨hnameable, hroutable⟩ := nameable_of_firstDestination hsecond
          rw [h.2 hown ip hnameable hroutable]
      | none =>
          rw [ownDestination, connectionsOf, firstDestination_append]
          change none = (firstDestination database exePath
            ((ownRows owned tables.tcp).filterMap Row.connection)).or (firstDestination database
              exePath ((ownRows owned tables.tcp6).filterMap Row.connection))
          rw [hown, firstDestination_own_eq_none hsecond owned]
          rfl

theorem OnlyOwnDestination.of_same {owned : List Nat} {tables tables' : Tables}
    (hsame : SameOwnSockets owned tables tables')
    (h : OnlyOwnDestination database exePath (ownTables owned tables)) :
    OnlyOwnDestination database exePath (ownTables owned tables') ∧
      ownDestination database exePath (ownTables owned tables') =
        ownDestination database exePath (ownTables owned tables) := by
  have htcp := connections_eq_of_sockets hsame.1
  have htcp6 := connections_eq_of_sockets hsame.2
  have hown : ownDestination database exePath (ownTables owned tables') =
      ownDestination database exePath (ownTables owned tables) := by
    rw [ownDestination, ownDestination, connectionsOf, connectionsOf, htcp, htcp6]
  refine ⟨?_, hown⟩
  rw [OnlyOwnDestination, hown, ← htcp]
  exact h

end Destinations

section Answers

variable {database : Database} {pid : Nat} {process : ProcessEntry}

theorem routedAnswer_eq (connections : List Connection) :
    routedAnswer database pid process connections =
      match usedRoute database process.exePath
          (firstDestination database process.exePath connections) with
      | some used =>
          .ok
            { certId := used.certId
              process := process
              remoteHost := none
              remoteIp := firstDestination database process.exePath connections }
      | none => .err (noRouteMatched pid process.exePath) := by
  rw [routedAnswer, firstRoute_eq_of_firstDestination]
  cases usedRoute database process.exePath
    (firstDestination database process.exePath connections) <;> rfl

theorem routedAnswer_congr {first second : List Connection}
    (h : firstDestination database process.exePath first =
      firstDestination database process.exePath second) :
    routedAnswer database pid process first = routedAnswer database pid process second := by
  rw [routedAnswer_eq, routedAnswer_eq, h]

theorem firstDestination_eq_of_answer {first second : List Connection} {ip : String}
    (hfirst : firstDestination database process.exePath first = some ip)
    (hanswer : routedAnswer database pid process first =
      routedAnswer database pid process second) :
    firstDestination database process.exePath second = some ip := by
  obtain ⟨used, hused⟩ := exists_usedRoute_of_routable (List.find?_some hfirst)
  rw [routedAnswer_eq, routedAnswer_eq, hfirst, hused] at hanswer
  dsimp only at hanswer
  cases hother : usedRoute database process.exePath
      (firstDestination database process.exePath second) with
  | none => simp [hother] at hanswer
  | some other =>
      simp only [hother, Outcome.ok.injEq, ResolvedRoute.mk.injEq] at hanswer
      exact hanswer.2.2.2.symm

theorem routeProcess_congr {knownHashes : KnownHashes} {store : Store} {tables tables' : Tables}
    (h : binaryReplaced knownHashes process = false →
      ∀ database master, store = .unlocked database master →
        firstDestination database process.exePath (connectionsOf tables') =
          firstDestination database process.exePath (connectionsOf tables))
    (system system' : System) :
    routeProcess (withTables system' tables') store knownHashes pid process =
      routeProcess (withTables system tables) store knownHashes pid process := by
  cases hreplaced : binaryReplaced knownHashes process with
  | true => rw [routeProcess_of_replaced hreplaced, routeProcess_of_replaced hreplaced]
  | false =>
      cases store with
      | locked =>
          rw [routeProcess_locked hreplaced, routeProcess_locked hreplaced,
            getConnections_withTables, getConnections_withTables]
          rfl
      | unlocked database master =>
          rw [routeProcess_unlocked hreplaced, routeProcess_unlocked hreplaced,
            getConnections_withTables, getConnections_withTables]
          exact routedAnswer_congr (h hreplaced database master rfl)

end Answers

theorem resolve_withTables (crates : Crates) (system : System) (tables : Tables) (pid : Nat)
    (cache : Cache) :
    resolve crates (withTables system tables) pid cache = resolve crates system pid cache := rfl

theorem ignoresForeignSockets_of_onlyOwn {crates : Crates} {system : System} {tables : Tables}
    {owned : List Nat} {store : Store} {pid : Nat} {knownHashes : KnownHashes} {cache : Cache}
    (h : ∀ process, (resolve crates system pid cache).1 = .ok process →
      binaryReplaced knownHashes process = false →
        ∀ database master, store = .unlocked database master →
          OnlyOwnDestination database process.exePath (ownTables owned tables)) :
    IgnoresForeignSockets crates system tables owned store pid knownHashes cache := by
  intro system' tables' hprocess hsockets
  rw [resolveForPid_fst, resolveForPid_fst, resolve_withTables, resolve_withTables,
    ← resolve_congr hprocess]
  cases hresolved : (resolve crates system pid cache).1 with
  | err error => rw [Outcome.err_bind, Outcome.err_bind]
  | panicked => rw [Outcome.panicked_bind, Outcome.panicked_bind]
  | ok process =>
      rw [Outcome.ok_bind, Outcome.ok_bind]
      apply routeProcess_congr
      intro haccepted database master hstore
      have honly := h process hresolved haccepted database master hstore
      obtain ⟨honly', hown⟩ := honly.of_same hsockets
      rw [firstDestination_eq_own honly, firstDestination_eq_own honly', hown]

section ForeignRows

variable {ipv6 : Bool}

def establishedField : ProcField where
  letters := ['0', '1']
  nonempty := by decide
  plain := plain_of_all (by decide)

/-- An established connection of another process to the address of a row. -/
def foreignRow (row : Row ipv6) (inode : Nat) : Row ipv6 :=
  { row with state := establishedField, inode := inode }

theorem ownRows_ownRows (owned : List Nat) (rows : List (Row ipv6)) :
    ownRows owned (ownRows owned rows) = ownRows owned rows := by
  rw [ownRows, List.filter_eq_self]
  intro row hrow
  exact (List.mem_filter.mp hrow).2

theorem ownRows_foreignRow {owned : List Nat} {inode : Nat} (h : inode ∉ owned) (row : Row ipv6)
    (rows : List (Row ipv6)) :
    ownRows owned (foreignRow row inode :: ownRows owned rows) = ownRows owned rows := by
  have hforeign : ¬ decide ((foreignRow row inode).inode ∈ owned) = true := by
    rw [decide_eq_true_iff]
    exact h
  rw [ownRows, List.filter_cons, if_neg hforeign]
  exact ownRows_ownRows owned rows

theorem firstDestination_foreignRow {database : Database} {exePath : String} {row : Row ipv6}
    (h : routable database exePath row.remoteIp = true) (inode : Nat) (rows : List (Row ipv6)) :
    firstDestination database exePath
      ((foreignRow row inode :: rows).filterMap Row.connection) = some row.remoteIp := by
  have hconnection : (foreignRow row inode).connection =
      some { remoteIp := row.remoteIp, remotePort := row.remotePort, state := .established } :=
    if_pos rfl
  rw [List.filterMap_cons, hconnection, firstDestination]
  exact List.find?_cons_of_pos h

end ForeignRows

/-- If foreign sockets are ignored, an address to which one of them comes first is that
of the process's own first destination. -/
theorem ownDestination_of_ignores {crates : Crates} {system : System} {tables : Tables}
    {owned : List Nat} {database : Database} {master : Bytes} {pid : Nat}
    {knownHashes : KnownHashes} {cache : Cache} {process : ProcessEntry}
    (hignores : IgnoresForeignSockets crates system tables owned (.unlocked database master) pid
      knownHashes cache)
    (hresolved : (resolve crates system pid cache).1 = .ok process)
    (haccepted : binaryReplaced knownHashes process = false) {tables' : Tables}
    (hsame : ownTables owned tables' = ownTables owned tables) {ip : String}
    (hfirst : firstDestination database process.exePath (connectionsOf tables') = some ip) :
    ownDestination database process.exePath (ownTables owned tables) = some ip := by
  have hprocess : SameProcess crates pid system system := ⟨rfl, rfl, fun _ _ => rfl⟩
  have hown : ownTables owned (ownTables owned tables) = ownTables owned tables := by
    rw [ownTables, ownTables, ownRows_ownRows, ownRows_ownRows]
  have hforeign := hignores system tables' hprocess
    (by rw [SameOwnSockets, hsame]; exact ⟨rfl, rfl⟩)
  have halone := hignores system (ownTables owned tables) hprocess
    (by rw [SameOwnSockets, hown]; exact ⟨rfl, rfl⟩)
  rw [← halone, resolveForPid_fst, resolveForPid_fst, resolve_withTables, resolve_withTables,
    hresolved, Outcome.ok_bind, Outcome.ok_bind, routeProcess_unlocked haccepted,
    routeProcess_unlocked haccepted, getConnections_withTables, getConnections_withTables]
    at hforeign
  exact firstDestination_eq_of_answer hfirst hforeign

/-- Foreign sockets are ignored exactly where the routing is not reached, or no address
but that of the process's own first destination has a route. -/
theorem ignoresForeignSockets_iff (crates : Crates) (system : System) (tables : Tables)
    (owned : List Nat) (store : Store) (pid : Nat) (knownHashes : KnownHashes) (cache : Cache) :
    IgnoresForeignSockets crates system tables owned store pid knownHashes cache ↔
      ∀ process, (resolve crates system pid cache).1 = .ok process →
        binaryReplaced knownHashes process = false →
          ∀ database master, store = .unlocked database master →
            OnlyOwnDestination database process.exePath (ownTables owned tables) := by
  refine ⟨?_, ignoresForeignSockets_of_onlyOwn⟩
  rintro hignores process hresolved haccepted database master rfl
  obtain ⟨inode, hinode⟩ := Infinite.exists_notMem_finset owned.toFinset
  rw [List.mem_toFinset] at hinode
  constructor
  · rintro _ ⟨row, rfl⟩ hroutable
    apply @ownDestination_of_ignores _ _ _ _ _ _ _ _ _ _ hignores hresolved haccepted
      { tables with
        tcp := foreignRow row inode :: ownRows owned tables.tcp
        tcp6 := ownRows owned tables.tcp6 }
    · rw [ownTables, ownTables, ownRows_foreignRow hinode, ownRows_ownRows]
    · rw [connectionsOf, firstDestination_append, firstDestination_foreignRow hroutable]
      rfl
  · rintro hnone _ ⟨row, rfl⟩ hroutable
    apply @ownDestination_of_ignores _ _ _ _ _ _ _ _ _ _ hignores hresolved haccepted
      { tables with
        tcp := ownRows owned tables.tcp
        tcp6 := foreignRow row inode :: ownRows owned tables.tcp6 }
    · rw [ownTables, ownTables, ownRows_foreignRow hinode, ownRows_ownRows]
    · rw [connectionsOf, firstDestination_append, firstDestination_foreignRow hroutable]
      change (firstDestination database process.exePath
        ((ownRows owned tables.tcp).filterMap Row.connection)).or (some row.remoteIp) = _
      rw [show firstDestination database process.exePath
        ((ownRows owned tables.tcp).filterMap Row.connection) = none from hnone]
      rfl

/-- `/usr/bin/code` has a certificate of its own and another one for `203.0.113.9`. -/
def destinationDatabase : Database :=
  { apps := [
      { id := "a1", label := "VSCode", exePath := "/usr/bin/code",
        exeHash := String.ofList (List.replicate 64 '0'), registeredAt := 0 }]
    routes := [
      { id := "r1", certId := "c1", appId := some "a1", matchType := "hostname", pattern := none,
        requireBoth := 0, priority := 0, createdAt := 0 },
      { id := "r2", certId := "c2", appId := some "a1", matchType := "ip",
        pattern := some "203.0.113.9", requireBoth := 1, priority := 10, createdAt := 0 }] }

def emptyTables : Tables where
  header := ⟨[], by decide⟩
  header6 := ⟨[], by decide⟩
  tcp := []
  tcp6 := []

/-- A connection to `203.0.113.9` with the inode 99. -/
def otherConnection : Row false where
  slot := numberField 0
  localAddress := numberField 0
  remoteAddress := ⟨"097100CB:01BB".toList, by decide, plain_of_all (by decide)⟩
  state := establishedField
  counters _ := numberField 0
  inode := 99
  rest := []
  remoteIp := "203.0.113.9"
  remotePort := 443
  readable := by decide

/-- Process 7 has no socket open, and is given another certificate when some process is
connected to `203.0.113.9`. -/
theorem foreign_socket_changes_certificate :
    ¬ IgnoresForeignSockets plainCrates
      (quietSystem [(7, "/usr/bin/code")] [("/usr/bin/code", [])]) emptyTables []
      (.unlocked destinationDatabase []) 7 (fun _ => none) fun _ => none := by
  intro hignores
  have hsame := hignores (quietSystem [(7, "/usr/bin/code")] [("/usr/bin/code", [])])
    { emptyTables with tcp := [otherConnection] } ⟨rfl, rfl, fun _ _ => rfl⟩ ⟨rfl, rfl⟩
  have hresolved : (resolve plainCrates
      (quietSystem [(7, "/usr/bin/code")] [("/usr/bin/code", [])]) 7 fun _ => none).1 =
        .ok
          { pid := 7
            exePath := "/usr/bin/code"
            exeHash := String.ofList (List.replicate 64 '0')
            startTime := 500 } := by
    decide
  rw [resolveForPid_fst, resolveForPid_fst, resolve_withTables, resolve_withTables, hresolved,
    Outcome.ok_bind, Outcome.ok_bind, routeProcess_unlocked rfl, routeProcess_unlocked rfl,
    getConnections_withTables, getConnections_withTables] at hsame
  exact absurd hsame (by decide)

end TrafficCone.ForeignSockets
