import TrafficCone.StoreModels

namespace TrafficCone.SocketAddresses

open TrafficCone.Outcomes
open TrafficCone.StoreModels

def socketName : String := "\x00traffic-cone-daemon"

def sshAgentSocket : String := "\x00traffic-cone-ssh-agent"

section Addresses

/-- How many bytes there are for the path of an address. -/
def sunPathLen : Nat := 108

abbrev SunPath : Type := Vector UInt8 sunPathLen

/-- An assignment to one byte of the path; it panics outside of it. -/
def assign (path : SunPath) (index : Nat) (byte : UInt8) : Outcome String SunPath :=
  if h : index < sunPathLen then .ok (path.set index byte h) else .panicked

def assignFrom (path : SunPath) (index : Nat) : Bytes → Outcome String SunPath
  | [] => .ok path
  | byte :: bytes => do
      let path ← assign path index byte
      assignFrom path (index + 1) bytes

structure SockaddrUn where
  sunPath : SunPath
  addrLen : Nat

/-- The size of the family of an address, which stands before its path. -/
def familySize : Nat := 2

/-- What the kernel takes for the name of a socket: the path as far as the length goes. -/
def SockaddrUn.address (addr : SockaddrUn) : Bytes :=
  addr.sunPath.toList.take (addr.addrLen - familySize)

/-- The address that is bound for a name. -/
def abstractSockaddr (name : String) : Outcome String SockaddrUn := do
  let path ← assign (Vector.replicate sunPathLen 0) 0 0
  let path ← assignFrom path 1 (asBytes name)
  pure { sunPath := path, addrLen := familySize + 1 + (asBytes name).length }

theorem assign_eq_ok {path : SunPath} {index : Nat} (h : index < sunPathLen) (byte : UInt8) :
    assign path index byte = .ok (path.set index byte h) :=
  dif_pos h

/-- A copy that stays inside leaves what is before it and what is behind it. -/
theorem assignFrom_of_fits {bytes : Bytes} {path : SunPath} {index : Nat}
    (hfits : index + bytes.length ≤ sunPathLen) :
    ∃ copied, assignFrom path index bytes = .ok copied ∧
      copied.toList =
        path.toList.take index ++ bytes ++ path.toList.drop (index + bytes.length) := by
  induction bytes generalizing path index with
  | nil => exact ⟨path, rfl, by simp⟩
  | cons byte bytes ih =>
      rw [List.length_cons] at hfits
      have hindex : index < sunPathLen := by omega
      have hlist : index < path.toList.length := by
        rw [Vector.length_toList]
        exact hindex
      obtain ⟨copied, hcopied, htoList⟩ :=
        @ih (path.set index byte hindex) (index + 1) (by omega)
      refine ⟨copied, ?_, ?_⟩
      · rw [assignFrom, assign_eq_ok hindex, Outcome.ok_bind]
        exact hcopied
      · have hlength : (path.toList.take index).length = index :=
          List.length_take_of_le (Nat.le_of_lt hlist)
        rw [htoList, Vector.toList_set, List.drop_set_of_lt (by omega),
          List.set_eq_take_append_cons_drop, if_pos hlist, List.take_append, hlength,
          List.take_of_length_le (by omega), Nat.add_sub_cancel_left, List.length_cons]
        simp [Nat.add_assoc, Nat.add_comm 1]

/-- A copy that leaves the path panics. -/
theorem assignFrom_of_overflows {bytes : Bytes} {path : SunPath} {index : Nat}
    (hindex : index ≤ sunPathLen) (hoverflows : sunPathLen < index + bytes.length) :
    assignFrom path index bytes = .panicked := by
  induction bytes generalizing path index with
  | nil => exact absurd hoverflows (Nat.not_lt.mpr hindex)
  | cons byte bytes ih =>
      rw [List.length_cons] at hoverflows
      by_cases hinside : index < sunPathLen
      · rw [assignFrom, assign_eq_ok hinside, Outcome.ok_bind]
        exact ih hinside (by omega)
      · rw [assignFrom, assign, dif_neg hinside]
        rfl

variable {name : String}

/-- What is bound is the name behind a zero, whatever the name begins with. -/
theorem abstractSockaddr_of_short (h : (asBytes name).length ≤ 107) :
    ∃ addr, abstractSockaddr name = .ok addr ∧ addr.address = 0 :: asBytes name := by
  have hzero : (0 : Nat) < sunPathLen := by decide
  obtain ⟨path, hpath, htoList⟩ :=
    @assignFrom_of_fits (asBytes name) ((Vector.replicate sunPathLen 0).set 0 0 hzero) 1
      (by rw [sunPathLen]; omega)
  refine ⟨{ sunPath := path, addrLen := familySize + 1 + (asBytes name).length }, ?_, ?_⟩
  · rw [abstractSockaddr, assign_eq_ok hzero, Outcome.ok_bind, hpath]
    rfl
  · have hfirst : ((Vector.replicate sunPathLen (0 : UInt8)).set 0 0 hzero).toList.take 1 = [0] :=
      rfl
    rw [SockaddrUn.address, htoList, hfirst, Nat.add_assoc, Nat.add_sub_cancel_left]
    exact List.take_left' (by rw [List.length_append, List.length_singleton])

theorem abstractSockaddr_of_long (h : 107 < (asBytes name).length) :
    abstractSockaddr name = .panicked := by
  have hzero : (0 : Nat) < sunPathLen := by decide
  rw [abstractSockaddr, assign_eq_ok hzero, Outcome.ok_bind, assignFrom_of_overflows hzero]
  · rfl
  · rw [sunPathLen]
    omega

end Addresses

section Sockets

/-- The addresses of the abstract namespace that are in use, and which calls succeed. -/
structure Kernel where
  bound : List Bytes
  opens : Bool
  listens : Bool

def openSocket : Effect Kernel String Unit :=
  Effect.reads fun kernel => if kernel.opens then .ok () else .err "socket() failed"

def bindSocket (address : Bytes) : Effect Kernel String Unit := fun kernel =>
  if address ∈ kernel.bound then (.err "bind() failed on abstract socket", kernel)
  else (.ok (), { kernel with bound := address :: kernel.bound })

/-- A socket that cannot listen is closed, and its address is free again. -/
def listenOn (address : Bytes) : Effect Kernel String Unit := fun kernel =>
  if kernel.listens then (.ok (), kernel)
  else (.err "listen() failed", { kernel with bound := kernel.bound.erase address })

/-- The address of the listener is returned. -/
def bindAbstractSocket (name : String) : Effect Kernel String Bytes := do
  openSocket
  let addr ← Effect.lift (abstractSockaddr name)
  bindSocket addr.address
  listenOn addr.address
  pure addr.address

/-- The address that `UnixStream::connect` makes of a path: it may hold no zero, and there
has to be room for one behind it. -/
def connectAddress (path : String) : Outcome String Bytes :=
  if 0 ∈ asBytes path then .err "paths must not contain interior null bytes"
  else if sunPathLen ≤ (asBytes path).length then .err "path must be shorter than SUN_LEN"
  else .ok (asBytes path)

theorem bindSocket_eq_ok {address : Bytes} {kernel kernel' : Kernel}
    (h : bindSocket address kernel = (.ok (), kernel')) :
    kernel' = { kernel with bound := address :: kernel.bound } := by
  rw [bindSocket] at h
  split at h
  · cases h
  · exact (Prod.mk.inj h).2.symm

theorem listenOn_eq_ok {address : Bytes} {kernel kernel' : Kernel}
    (h : listenOn address kernel = (.ok (), kernel')) : kernel' = kernel := by
  rw [listenOn] at h
  split at h
  · exact (Prod.mk.inj h).2.symm
  · cases h

theorem bindAbstractSocket_eq_ok {name : String} {address : Bytes} {kernel kernel' : Kernel}
    (h : bindAbstractSocket name kernel = (.ok address, kernel')) :
    ∃ addr, abstractSockaddr name = .ok addr ∧ address = addr.address ∧
      kernel'.bound = address :: kernel.bound := by
  obtain ⟨_, -, h⟩ := Effect.reads_bind_eq_ok_iff.mp h
  obtain ⟨addr, haddr, h⟩ := Effect.lift_bind_eq_ok_iff.mp h
  obtain ⟨_, _, hbind, h⟩ := Effect.bind_eq_ok_iff.mp h
  obtain ⟨_, _, hlisten, h⟩ := Effect.bind_eq_ok_iff.mp h
  obtain rfl := bindSocket_eq_ok hbind
  obtain rfl := listenOn_eq_ok hlisten
  obtain ⟨haddress, rfl⟩ := Prod.mk.inj h
  obtain rfl := Outcome.ok.inj haddress
  exact ⟨addr, haddr, rfl, rfl⟩

/-- The address is made inside the path, and it is the name. -/
structure BindsItsName (name : String) : Prop where
  inside : abstractSockaddr name ≠ .panicked
  exact : ∀ addr, abstractSockaddr name = .ok addr → addr.address = asBytes name

/-- A name that begins with a zero is bound with one more in front of it, and a client
that is given the name has no address at all. -/
theorem abstract_socket_has_another_address {name : String}
    (hzero : (asBytes name).head? = some 0) (hlength : (asBytes name).length ≤ 107) :
    (∃ addr, abstractSockaddr name = .ok addr ∧ addr.address = 0 :: asBytes name) ∧
      ¬ BindsItsName name ∧
      (∀ kernel kernel' address, bindAbstractSocket name kernel = (.ok address, kernel') →
        address = 0 :: asBytes name ∧ kernel'.bound = address :: kernel.bound) ∧
      ∃ error, connectAddress name = .err error := by
  obtain ⟨addr, haddr, haddress⟩ := abstractSockaddr_of_short hlength
  refine ⟨⟨addr, haddr, haddress⟩, ?_, ?_, ?_⟩
  · intro hbinds
    have hlonger := congrArg List.length (haddress.symm.trans (hbinds.exact addr haddr))
    rw [List.length_cons] at hlonger
    omega
  · intro kernel kernel' address hbound
    obtain ⟨found, hfound, rfl, hkernel⟩ := bindAbstractSocket_eq_ok hbound
    obtain rfl := Outcome.ok.inj (haddr.symm.trans hfound)
    exact ⟨haddress, hkernel⟩
  · have hmem : 0 ∈ asBytes name := List.mem_of_mem_head? hzero
    exact ⟨_, by rw [connectAddress, if_pos hmem]⟩

theorem sockets_have_other_addresses :
    (asBytes socketName).head? = some 0 ∧ (asBytes sshAgentSocket).head? = some 0 ∧
      ¬ BindsItsName socketName ∧ ¬ BindsItsName sshAgentSocket := by
  have hdaemon : (asBytes socketName).head? = some 0 := by decide +kernel
  have hagent : (asBytes sshAgentSocket).head? = some 0 := by decide +kernel
  obtain ⟨-, hnotDaemon, -, -⟩ := abstract_socket_has_another_address hdaemon (by decide +kernel)
  obtain ⟨-, hnotAgent, -, -⟩ := abstract_socket_has_another_address hagent (by decide +kernel)
  exact ⟨hdaemon, hagent, hnotDaemon, hnotAgent⟩

/-- The daemon listens where the name of its socket does not lead. -/
theorem socketName_counterexample :
    (bindAbstractSocket socketName { bound := [], opens := true, listens := true }).1 =
        .ok (0 :: 0 :: asBytes "traffic-cone-daemon") ∧
      asBytes socketName = 0 :: asBytes "traffic-cone-daemon" ∧ ¬ BindsItsName socketName := by
  refine ⟨by decide +kernel, by decide +kernel, ?_⟩
  intro hbinds
  obtain ⟨addr, haddr, haddress⟩ := @abstractSockaddr_of_short socketName (by decide +kernel)
  exact absurd (haddress.symm.trans (hbinds.exact addr haddr)) (by decide +kernel)

end Sockets

end TrafficCone.SocketAddresses
