import TrafficCone.KernelAddresses
import TrafficCone.SocketTables

namespace TrafficCone.PrintedSockets

open TrafficCone.Outcomes
open TrafficCone.HexadecimalText
open TrafficCone.TextScanning
open TrafficCone.ProcReaders
open TrafficCone.KernelProcesses
open TrafficCone.KernelAddresses
open TrafficCone.SocketTables

/-- What follows the state in a row: further columns, and the blanks that fill the line. -/
structure Columns where
  letters : List Char
  oneLine : '\n' ∉ letters ∧ '\r' ∉ letters
  apart : letters = [] ∨ ∃ rest, letters = ' ' :: rest

structure Socket where
  slot : Nat
  localAddress : Word
  localPort : UInt16
  remoteAddress : Word
  remotePort : UInt16
  state : UInt8
  columns : Columns

/-- An address is printed as the machine loads it, and the port as a number. -/
def addressText (address : Word) (port : UInt16) : List Char :=
  upperHexPadded 8 (hostValue address) ++ ':' :: upperHexPadded 4 port.toNat

def slotText (slot : Nat) : List Char := Nat.toDigits 10 slot ++ [':']

/-- The number of the slot is right-aligned in four columns. -/
def slotPadding (slot : Nat) : List Char :=
  List.replicate (4 - (Nat.toDigits 10 slot).length) ' '

def rowText (socket : Socket) : List Char :=
  slotPadding socket.slot ++ slotText socket.slot ++
    ' ' :: (addressText socket.localAddress socket.localPort ++
      ' ' :: (addressText socket.remoteAddress socket.remotePort ++
        ' ' :: (upperHexPadded 2 socket.state.toNat ++ socket.columns.letters)))

/-- The text of `/proc/net/tcp` on a little-endian machine. -/
def kernelTable (header : Header) (sockets : List Socket) : String :=
  String.ofList (header.letters ++ '\n' :: sockets.flatMap fun socket => rowText socket ++ ['\n'])

/-- The remote ends of the sockets in state 01, in the order of the table. -/
def establishedEnds (sockets : List Socket) : List Connection :=
  (sockets.filter fun socket => socket.state = 1).map fun socket =>
    { remoteIp := dottedDecimal socket.remoteAddress
      remotePort := socket.remotePort.toNat
      state := .established }

section Words

theorem isWhitespace_upperHexDigit {value : Nat} (h : value < 16) :
    isWhitespace (upperHexDigit value) = false := by
  interval_cases value <;> decide

theorem isWhitespace_of_mem_upperHexPadded {width value : Nat} {letter : Char}
    (h : letter ∈ upperHexPadded width value) : isWhitespace letter = false := by
  obtain ⟨digit, hdigit, rfl⟩ := exists_of_mem_upperHexPadded h
  exact isWhitespace_upperHexDigit hdigit

theorem isWhitespace_of_mem_addressText {address : Word} {port : UInt16} {letter : Char}
    (h : letter ∈ addressText address port) : isWhitespace letter = false := by
  rw [addressText, List.mem_append, List.mem_cons] at h
  rcases h with haddress | rfl | hport
  · exact isWhitespace_of_mem_upperHexPadded haddress
  · decide
  · exact isWhitespace_of_mem_upperHexPadded hport

theorem isWhitespace_of_mem_slotText {slot : Nat} {letter : Char}
    (h : letter ∈ slotText slot) : isWhitespace letter = false := by
  rw [slotText, List.mem_append, List.mem_singleton] at h
  rcases h with hdigit | rfl
  · exact isWhitespace_of_isDigit (Nat.isDigit_of_mem_toDigits (by decide) (by decide) hdigit)
  · decide

theorem upperHexPadded_ne_nil (width value : Nat) : upperHexPadded (width + 1) value ≠ [] := by
  rw [upperHexPadded]
  exact List.append_ne_nil_of_right_ne_nil _ (List.cons_ne_nil _ _)

theorem splitWhitespace_padding (count : Nat) (letters : List Char) :
    splitWhitespace (List.replicate count ' ' ++ letters) = splitWhitespace letters := by
  induction count with
  | zero => rfl
  | succ count ih =>
      rw [List.replicate_succ, List.cons_append, splitWhitespace_gap (by decide), ih]

/-- The columns do not run into the state. -/
theorem splitWhitespace_columns (columns : Columns) {word : List Char} (hword : word ≠ [])
    (hletters : ∀ letter ∈ word, isWhitespace letter = false) :
    splitWhitespace (word ++ columns.letters) = word :: splitWhitespace columns.letters := by
  rcases columns.apart with hnone | ⟨rest, hrest⟩
  · rw [hnone, List.append_nil, ← splitWhitespace_append_gap (show isWhitespace ' ' by decide),
      splitWhitespace_word hword hletters (by decide)]
  · rw [hrest, splitWhitespace_word hword hletters (by decide), splitWhitespace_gap (by decide)]

theorem splitWhitespace_rowText (socket : Socket) :
    splitWhitespace (rowText socket) =
      slotText socket.slot :: addressText socket.localAddress socket.localPort ::
        addressText socket.remoteAddress socket.remotePort ::
          upperHexPadded 2 socket.state.toNat :: splitWhitespace socket.columns.letters := by
  have hslot : slotText socket.slot ≠ [] :=
    List.append_ne_nil_of_right_ne_nil _ (List.cons_ne_nil _ _)
  have haddress : ∀ address port, addressText address port ≠ [] := fun _ _ =>
    List.append_ne_nil_of_right_ne_nil _ (List.cons_ne_nil _ _)
  rw [rowText, slotPadding, List.append_assoc, splitWhitespace_padding,
    splitWhitespace_word hslot (fun _ => isWhitespace_of_mem_slotText) (by decide),
    splitWhitespace_word (haddress _ _) (fun _ => isWhitespace_of_mem_addressText) (by decide),
    splitWhitespace_word (haddress _ _) (fun _ => isWhitespace_of_mem_addressText) (by decide),
    splitWhitespace_columns _ (upperHexPadded_ne_nil 1 _)
      (fun _ => isWhitespace_of_mem_upperHexPadded)]

theorem not_mem_rowText {socket : Socket} {letter : Char} (hblank : isWhitespace letter = true)
    (hspace : letter ≠ ' ') (hcolumns : letter ∉ socket.columns.letters) :
    letter ∉ rowText socket := by
  have hother : ∀ {other : Char}, isWhitespace other = false → letter ≠ other := by
    rintro other hplain rfl
    rw [hblank] at hplain
    cases hplain
  rw [rowText, slotPadding]
  simp only [List.mem_append, List.mem_cons, not_or]
  refine ⟨⟨?_, ?_⟩, hspace, ?_, hspace, ?_, hspace, ?_, hcolumns⟩
  · exact fun hmem => hspace (List.eq_of_mem_replicate hmem)
  · exact fun hmem => hother (isWhitespace_of_mem_slotText hmem) rfl
  · exact fun hmem => hother (isWhitespace_of_mem_addressText hmem) rfl
  · exact fun hmem => hother (isWhitespace_of_mem_addressText hmem) rfl
  · exact fun hmem => hother (isWhitespace_of_mem_upperHexPadded hmem) rfl

end Words

section Reading

theorem formatIpv4_hostValue (address : Word) :
    formatIpv4 (hostValue address) = dottedDecimal address := by
  have hfirst := address.first.toNat_lt
  have hsecond := address.second.toNat_lt
  have hthird := address.third.toNat_lt
  have hfourth := address.fourth.toNat_lt
  have hbyte₁ : hostValue address % 256 = address.first.toNat := by
    rw [hostValue]
    omega
  have hbyte₂ : hostValue address / 2 ^ 8 % 256 = address.second.toNat := by
    rw [hostValue]
    omega
  have hbyte₃ : hostValue address / 2 ^ 16 % 256 = address.third.toNat := by
    rw [hostValue]
    omega
  have hbyte₄ : hostValue address / 2 ^ 24 % 256 = address.fourth.toNat := by
    rw [hostValue]
    omega
  rw [formatIpv4, hbyte₁, hbyte₂, hbyte₃, hbyte₄, dottedDecimal]

theorem parseHexAddr_addressText (address : Word) (port : UInt16) :
    parseHexAddr (addressText address port) false =
      .ok (some (dottedDecimal address, port.toNat)) := by
  have haddress : parseUnsigned 16 (2 ^ 32) (upperHexPadded 8 (hostValue address)) =
      some (hostValue address) :=
    parseUnsigned_upperHexPadded (hostValue_lt address) (hostValue_lt address)
  have hport : parseUnsigned 16 (2 ^ 16) (upperHexPadded 4 port.toNat) = some port.toNat :=
    parseUnsigned_upperHexPadded port.toNat_lt port.toNat_lt
  have hlength : byteLength (upperHexPadded 8 (hostValue address)) = 8 := by
    have hwords := byteLength_words [address]
    rwa [List.flatMap_singleton] at hwords
  rw [parseHexAddr, addressText, splitOnce_append (colon_not_mem_upperHexPadded _ _)]
  dsimp only
  rw [hport]
  dsimp only
  rw [if_neg (by decide), hlength, if_neg (by decide), haddress, Option.map_some,
    formatIpv4_hostValue]

theorem stateText_eq_iff (state : UInt8) :
    upperHexPadded 2 state.toNat = ['0', '1'] ↔ state = 1 := by
  constructor
  · intro htext
    have hvalue := @digitsValue_upperHexPadded 2 state.toNat state.toNat_lt
    rw [htext, show digitsValue 16 0 ['0', '1'] = some 1 by decide, Option.some.injEq] at hvalue
    exact UInt8.toNat_inj.mp hvalue.symm
  · rintro rfl
    decide

theorem lines_kernelTable (header : Header) (sockets : List Socket) :
    (lines (kernelTable header sockets).toList).drop 1 = sockets.map rowText := by
  rw [kernelTable, String.toList_ofList, lines_cons header.oneLine, List.drop_one, List.tail_cons]
  induction sockets with
  | nil => rfl
  | cons socket sockets ih =>
      have hfeed : '\n' ∉ rowText socket :=
        not_mem_rowText (by decide) (by decide) socket.columns.oneLine.1
      have hreturn : '\r' ∉ rowText socket :=
        not_mem_rowText (by decide) (by decide) socket.columns.oneLine.2
      rw [List.flatMap_cons, List.append_assoc, List.singleton_append, lines_cons hfeed, ih,
        stripCarriageReturn_of_not_mem hreturn, List.map_cons]

theorem readTcpLines_rowTexts (sockets : List Socket) :
    readTcpLines false (sockets.map rowText) = .ok (establishedEnds sockets) := by
  induction sockets with
  | nil => rfl
  | cons socket sockets ih =>
      rw [List.map_cons, readTcpLines, splitWhitespace_rowText]
      dsimp only
      by_cases hstate : socket.state = 1
      · rw [if_pos ((stateText_eq_iff _).mpr hstate), parseHexAddr_addressText, ih]
        dsimp only
        rw [establishedEnds, establishedEnds, List.filter_cons_of_pos (by simpa using hstate),
          List.map_cons]
      · rw [if_neg (mt (stateText_eq_iff _).mp hstate), ih, establishedEnds, establishedEnds,
          List.filter_cons_of_neg (by simpa using hstate)]

end Reading

/-- From the kernel's table of any sockets the remote ends of the established ones are read,
all of them and nothing else. -/
theorem readProcNetTcp_kernelTable {system : System} {pid : Nat} {header : Header}
    {sockets : List Socket} (h : system.netTcp pid = some (kernelTable header sockets)) :
    readProcNetTcp system pid false = .ok (establishedEnds sockets) := by
  rw [readProcNetTcp, if_neg (by decide), h]
  dsimp only
  rw [lines_kernelTable, readTcpLines_rowTexts]

section TwoSockets

def columnsHeader : Header where
  letters := "  sl  local_address rem_address   st tx_queue rx_queue".toList
  oneLine := by decide

def queueColumns : Columns where
  letters := " 00000000:00000000 00:00000000 00000000  1000".toList
  oneLine := by decide
  apart := Or.inr ⟨_, rfl⟩

/-- A socket that listens, and a connection from it. -/
def twoSockets : List Socket :=
  [{ slot := 0
     localAddress := { first := 192, second := 168, third := 0, fourth := 7 }
     localPort := 22
     remoteAddress := { first := 0, second := 0, third := 0, fourth := 0 }
     remotePort := 0
     state := 10
     columns := queueColumns },
   { slot := 1
     localAddress := { first := 192, second := 168, third := 0, fourth := 7 }
     localPort := 22
     remoteAddress := { first := 10, second := 1, third := 2, fourth := 250 }
     remotePort := 50022
     state := 1
     columns := queueColumns }]

theorem readProcNetTcp_twoSockets :
    readProcNetTcp
        { quietSystem [] [] with netTcp := fun _ => some (kernelTable columnsHeader twoSockets) }
        7 false = .ok (establishedEnds twoSockets) ∧
      establishedEnds twoSockets =
        [{ remoteIp := "10.1.2.250", remotePort := 50022, state := .established }] :=
  ⟨readProcNetTcp_kernelTable rfl, by decide⟩

example : String.ofList (rowText twoSockets[1]) =
    "   1: 0700A8C0:0016 FA02010A:C366 01 00000000:00000000 00:00000000 00000000  1000" := by
  decide

end TwoSockets

end TrafficCone.PrintedSockets
