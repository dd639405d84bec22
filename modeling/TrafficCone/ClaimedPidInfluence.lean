import TrafficCone.ErrorTexts
import TrafficCone.RestrictionSoundness

namespace TrafficCone.ClaimedPidInfluence

open TrafficCone.Outcomes
open TrafficCone.TextLeads
open TrafficCone.StoreModels
open TrafficCone.LinkedCrates
open TrafficCone.ProcReaders
open TrafficCone.ProcessMonitoring
open TrafficCone.RouteResolution
open TrafficCone.PidRouting
open TrafficCone.IpcServing
open TrafficCone.ErrorTexts

inductive Ending where
  | crashed
  | unidentified (text : String)
  | replaced (exePath : String)
  | storeLocked
  | unrouted (exePath : String)
  | keyFailed (certId text : String)
  | signed (certId : String) (signature : Bytes)

def Ending.answer (pid : Nat) : Ending → Outcome String Response
  | .crashed => .panicked
  | .unidentified text => .ok (.error text)
  | .replaced exePath => .ok (.error (hashMismatch exePath pid))
  | .storeLocked => .ok (.error StoreError.locked.toText)
  | .unrouted exePath => .ok (.error (noRouteMatched pid exePath))
  | .keyFailed _ text => .ok (.error text)
  | .signed certId signature => .ok (.signature certId signature)

def Ending.TextsFit : Ending → Prop
  | .unidentified text => LedBy ErrorPoint.identification.leads text
  | .keyFailed _ text => LedBy ErrorPoint.key.leads text
  | _ => True

/-- Endings that give one answer for different PIDs. -/
def Ending.Alike : Ending → Ending → Prop
  | .crashed, .crashed => True
  | .unidentified text, .unidentified text' => text = text'
  | .storeLocked, .storeLocked => True
  | .keyFailed _ text, .keyFailed _ text' => text = text'
  | .signed certId signature, .signed certId' signature' =>
      certId = certId' ∧ signature = signature'
  | _, _ => False

def Ending.errorPoint : Ending → Option ErrorPoint
  | .unidentified _ => some .identification
  | .replaced _ => some .hashCheck
  | .storeLocked => some .lock
  | .unrouted _ => some .routing
  | .keyFailed _ _ => some .key
  | .crashed => none
  | .signed _ _ => none

theorem Ending.answer_ledBy {ending : Ending} {pid : Nat} {text : String}
    (hfit : ending.TextsFit) (h : ending.answer pid = .ok (.error text)) :
    ∃ point, ending.errorPoint = some point ∧ LedBy point.leads text := by
  cases ending with
  | crashed => cases h
  | signed certId signature => cases h
  | unidentified cause =>
      cases h
      exact ⟨_, rfl, hfit⟩
  | replaced exePath =>
      cases h
      exact ⟨_, rfl, hashMismatch_ledBy exePath pid⟩
  | storeLocked =>
      cases h
      exact ⟨_, rfl, locked_ledBy⟩
  | unrouted exePath =>
      cases h
      exact ⟨_, rfl, noRouteMatched_ledBy pid exePath⟩
  | keyFailed certId cause =>
      cases h
      exact ⟨_, rfl, hfit⟩

theorem Ending.alike_of_error {first second : Ending} {pid pid' : Nat} {text : String}
    (hfirst : first.TextsFit) (hsecond : second.TextsFit)
    (h : first.answer pid = .ok (.error text)) (h' : second.answer pid' = .ok (.error text)) :
    pid = pid' ∨ first.Alike second := by
  obtain ⟨point, hpoint, hled⟩ := Ending.answer_ledBy hfirst h
  obtain ⟨point', hpoint', hled'⟩ := Ending.answer_ledBy hsecond h'
  -- The text fixes the point at which it was formed, and there the rest of it fixes the PID.
  obtain rfl := errorPoint_unique hled hled'
  have htexts : first.answer pid = second.answer pid' := h.trans h'.symm
  have hpoints : first.errorPoint = second.errorPoint := hpoint.trans hpoint'.symm
  cases first with
  | crashed => cases h
  | signed certId signature => cases h
  | unidentified cause =>
      cases second <;> cases hpoints
      cases htexts
      exact Or.inr rfl
  | replaced exePath =>
      cases second <;> cases hpoints
      injection htexts with hresponse
      injection hresponse with hmismatch
      exact Or.inl (hashMismatch_inj hmismatch)
  | storeLocked =>
      cases second <;> cases hpoints
      exact Or.inr trivial
  | unrouted exePath =>
      cases second <;> cases hpoints
      injection htexts with hresponse
      injection hresponse with hunrouted
      exact Or.inl (noRouteMatched_inj hunrouted)
  | keyFailed certId cause =>
      cases second <;> cases hpoints
      cases htexts
      exact Or.inr rfl

/-- Different PIDs are given one answer only by endings that are alike. -/
theorem Ending.alike_of_answer_eq {first second : Ending} {pid pid' : Nat}
    (hfirst : first.TextsFit) (hsecond : second.TextsFit)
    (h : first.answer pid = second.answer pid') : pid = pid' ∨ first.Alike second := by
  cases hanswer : first.answer pid with
  | err error => cases first <;> cases hanswer
  | panicked =>
      rw [hanswer] at h
      cases first <;> cases hanswer
      cases second <;> cases h
      exact Or.inr trivial
  | ok response =>
      cases response with
      | error text => exact Ending.alike_of_error hfirst hsecond hanswer (h ▸ hanswer)
      | signature certId signature =>
          rw [hanswer] at h
          cases first <;> cases hanswer
          cases second <;> cases h
          exact Or.inr ⟨rfl, rfl⟩
      | pong | certs | status | ok => cases first <;> cases hanswer

section SignRequest

variable (crates : Crates) (system : System) (knownHashes : KnownHashes) (data : Bytes)
  (shared : Shared)

def Unidentified (pid : Nat) (text : String) : Prop :=
  (resolve crates system pid shared.cache).1 = .err text

/-- The process of the PID is found, and its binary is not refused. -/
def Admitted (pid : Nat) (process : ProcessEntry) : Prop :=
  (resolve crates system pid shared.cache).1 = .ok process ∧
    binaryReplaced knownHashes process = false

def HeldByLock (pid : Nat) : Prop :=
  shared.store = .locked ∧
    ∃ process connections, Admitted crates system knownHashes shared pid process ∧
      getConnections system pid = .ok connections

/-- A route of the open store leads the process to a certificate. -/
def RoutedTo (pid : Nat) (certId : String) : Prop :=
  ∃ process connections database master ip,
    Admitted crates system knownHashes shared pid process ∧
      getConnections system pid = .ok connections ∧ shared.store = .unlocked database master ∧
        firstRoute database process.exePath connections = some (certId, ip)

def LookupPanics (pid : Nat) : Prop :=
  (resolve crates system pid shared.cache).1 = .panicked ∨
    ∃ process, Admitted crates system knownHashes shared pid process ∧
      getConnections system pid = .panicked

def Crashes (pid : Nat) : Prop :=
  LookupPanics crates system knownHashes shared pid ∨
    ∃ certId, RoutedTo crates system knownHashes shared pid certId ∧
      signData crates shared.store certId data = .panicked

theorem lookup_ok_iff {pid : Nat} {certId : String} :
    (∃ route, (resolveForPid crates system shared.store pid knownHashes shared.cache).1 =
      .ok route ∧ route.certId = certId) ↔
        RoutedTo crates system knownHashes shared pid certId := by
  simp only [resolveForPid_fst, Outcome.bind_eq_ok_iff, routeProcess_eq_ok_iff]
  constructor
  · rintro ⟨route, ⟨process, hresolve, haccepted, database, master, connections, certId, ip,
      hstore, hconnections, hfirst, rfl⟩, rfl⟩
    exact ⟨process, connections, database, master, ip, ⟨hresolve, haccepted⟩, hconnections, hstore,
      hfirst⟩
  · rintro ⟨process, connections, database, master, ip, ⟨hresolve, haccepted⟩, hconnections, hstore,
      hfirst⟩
    exact ⟨_, ⟨process, hresolve, haccepted, database, master, connections, certId, ip, hstore,
      hconnections, hfirst, rfl⟩, rfl⟩

theorem lookup_panicked_iff {pid : Nat} :
    (resolveForPid crates system shared.store pid knownHashes shared.cache).1 = .panicked ↔
      LookupPanics crates system knownHashes shared pid := by
  simp only [resolveForPid_fst, Outcome.bind_eq_panicked_iff, routeProcess_eq_panicked_iff,
    LookupPanics, Admitted, and_assoc]

/-- What two PIDs have in common when the answer does not tell them apart. -/
def AnsweredAlike (pid pid' : Nat) : Prop :=
  (Crashes crates system knownHashes data shared pid ∧
      Crashes crates system knownHashes data shared pid') ∨
    (∃ text, Unidentified crates system shared pid text ∧
      Unidentified crates system shared pid' text) ∨
    (HeldByLock crates system knownHashes shared pid ∧
      HeldByLock crates system knownHashes shared pid') ∨
    ∃ certId certId', RoutedTo crates system knownHashes shared pid certId ∧
      RoutedTo crates system knownHashes shared pid' certId' ∧
        (certId = certId' ∨ ∃ text, signData crates shared.store certId data = .err text ∧
          signData crates shared.store certId' data = .err text)

def Ending.Explained (pid : Nat) : Ending → Prop
  | .crashed => Crashes crates system knownHashes data shared pid
  | .unidentified text => Unidentified crates system shared pid text
  | .storeLocked => HeldByLock crates system knownHashes shared pid
  | .keyFailed certId text =>
      RoutedTo crates system knownHashes shared pid certId ∧
        signData crates shared.store certId data = .err text
  | .signed certId signature =>
      RoutedTo crates system knownHashes shared pid certId ∧
        signData crates shared.store certId data = .ok signature
  | .replaced _ => True
  | .unrouted _ => True

theorem answeredAlike_of_explained {ending ending' : Ending} {pid pid' : Nat}
    (hexplained : ending.Explained crates system knownHashes data shared pid)
    (hexplained' : ending'.Explained crates system knownHashes data shared pid')
    (halike : ending.Alike ending') :
    AnsweredAlike crates system knownHashes data shared pid pid' := by
  cases ending with
  | crashed =>
      cases ending' <;> try exact halike.elim
      exact Or.inl ⟨hexplained, hexplained'⟩
  | unidentified text =>
      cases ending' <;> try exact halike.elim
      obtain rfl : _ = _ := halike
      exact Or.inr (Or.inl ⟨text, hexplained, hexplained'⟩)
  | storeLocked =>
      cases ending' <;> try exact halike.elim
      exact Or.inr (Or.inr (Or.inl ⟨hexplained, hexplained'⟩))
  | keyFailed certId text =>
      cases ending' <;> try exact halike.elim
      obtain rfl : _ = _ := halike
      exact Or.inr (Or.inr (Or.inr ⟨certId, _, hexplained.1, hexplained'.1,
        Or.inr ⟨text, hexplained.2, hexplained'.2⟩⟩))
  | signed certId signature =>
      cases ending' <;> try exact halike.elim
      obtain ⟨rfl, rfl⟩ := halike
      exact Or.inr (Or.inr (Or.inr ⟨certId, certId, hexplained.1, hexplained'.1, Or.inl rfl⟩))
  | replaced exePath => cases ending' <;> exact halike.elim
  | unrouted exePath => cases ending' <;> exact halike.elim

theorem answer_of_routedTo {pid : Nat} {certId : String} (h : shared.poisoned = false)
    (hrouted : RoutedTo crates system knownHashes shared pid certId) :
    (answerSign crates system knownHashes pid data shared).1 =
      answerWith certId (signData crates shared.store certId data) := by
  obtain ⟨route, hroute, rfl⟩ := (lookup_ok_iff crates system knownHashes shared).mpr hrouted
  simp only [answerSign_fst crates system knownHashes pid data h, hroute]

theorem exists_ending (pid : Nat) (h : shared.poisoned = false) :
    ∃ ending : Ending, ending.Explained crates system knownHashes data shared pid ∧
      ending.TextsFit ∧
        (answerSign crates system knownHashes pid data shared).1 = ending.answer pid := by
  rw [answerSign_fst crates system knownHashes pid data h]
  cases hrouted : (resolveForPid crates system shared.store pid knownHashes shared.cache).1 with
  | panicked =>
      have hpanics := (lookup_panicked_iff crates system knownHashes shared).mp hrouted
      exact ⟨.crashed, Or.inl hpanics, trivial, rfl⟩
  | ok route =>
      have hcert := (lookup_ok_iff crates system knownHashes shared).mp ⟨route, hrouted, rfl⟩
      simp only
      cases hsigned : signData crates shared.store route.certId data with
      | panicked => exact ⟨.crashed, Or.inr ⟨_, hcert, hsigned⟩, trivial, rfl⟩
      | err text =>
          exact ⟨.keyFailed _ text, ⟨hcert, hsigned⟩, signData_err hsigned, rfl⟩
      | ok signature =>
          exact ⟨.signed _ signature, ⟨hcert, hsigned⟩, trivial, rfl⟩
  | err text =>
      rw [resolveForPid_fst, Outcome.bind_eq_err_iff] at hrouted
      rcases hrouted with hresolve | ⟨process, hresolve, hroute⟩
      · exact ⟨.unidentified text, hresolve, resolve_err hresolve, rfl⟩
      · cases hreplaced : binaryReplaced knownHashes process with
        | true =>
            rw [routeProcess_of_replaced hreplaced] at hroute
            obtain rfl := Outcome.err.inj hroute
            exact ⟨.replaced process.exePath, trivial, trivial, rfl⟩
        | false =>
            obtain ⟨connections, hconnections, ⟨hlocked, rfl⟩ | ⟨-, -, -, -, rfl⟩⟩ :=
              (routeProcess_eq_err_iff hreplaced).mp hroute
            · exact ⟨.storeLocked, ⟨hlocked, process, connections, ⟨hresolve, hreplaced⟩,
                hconnections⟩, trivial, rfl⟩
            · exact ⟨.unrouted process.exePath, trivial, trivial, rfl⟩

theorem answer_of_crashes {pid : Nat} (h : shared.poisoned = false)
    (hcrash : Crashes crates system knownHashes data shared pid) :
    (answerSign crates system knownHashes pid data shared).1 = .panicked := by
  rcases hcrash with hpanics | ⟨certId, hrouted, hsigned⟩
  · have hlookup := (lookup_panicked_iff crates system knownHashes shared).mpr hpanics
    simp only [answerSign_fst crates system knownHashes pid data h, hlookup]
  · rw [answer_of_routedTo crates system knownHashes data shared h hrouted, hsigned, answerWith]

theorem answer_of_unidentified {pid : Nat} {text : String} (h : shared.poisoned = false)
    (hunidentified : Unidentified crates system shared pid text) :
    (answerSign crates system knownHashes pid data shared).1 = .ok (.error text) := by
  unfold Unidentified at hunidentified
  simp only [answerSign_fst crates system knownHashes pid data h, resolveForPid_fst,
    hunidentified, Outcome.err_bind]

theorem answer_of_heldByLock {pid : Nat} (h : shared.poisoned = false)
    (hheld : HeldByLock crates system knownHashes shared pid) :
    (answerSign crates system knownHashes pid data shared).1 =
      .ok (.error StoreError.locked.toText) := by
  obtain ⟨hlocked, process, connections, ⟨hresolve, haccepted⟩, hconnections⟩ := hheld
  have hroute : routeProcess system shared.store knownHashes pid process =
      .err StoreError.locked.toText :=
    (routeProcess_eq_err_iff haccepted).mpr ⟨connections, hconnections, Or.inl ⟨hlocked, rfl⟩⟩
  simp only [answerSign_fst crates system knownHashes pid data h, resolveForPid_fst, hresolve,
    Outcome.ok_bind, hroute]

theorem answerSign_eq_iff (pid pid' : Nat) (h : shared.poisoned = false) :
    (answerSign crates system knownHashes pid data shared).1 =
        (answerSign crates system knownHashes pid' data shared).1 ↔
      pid = pid' ∨ AnsweredAlike crates system knownHashes data shared pid pid' := by
  constructor
  · intro hanswers
    obtain ⟨ending, hexplained, hfit, hanswer⟩ :=
      exists_ending crates system knownHashes data shared pid h
    obtain ⟨ending', hexplained', hfit', hanswer'⟩ :=
      exists_ending crates system knownHashes data shared pid' h
    rw [hanswer, hanswer'] at hanswers
    exact (Ending.alike_of_answer_eq hfit hfit' hanswers).imp_right
      (answeredAlike_of_explained crates system knownHashes data shared hexplained hexplained')
  · rintro (rfl | ⟨hcrash, hcrash'⟩ | ⟨text, htext, htext'⟩ | ⟨hheld, hheld'⟩ |
      ⟨certId, certId', hrouted, hrouted', rfl | ⟨text, hfailed, hfailed'⟩⟩)
    · rfl
    · rw [answer_of_crashes crates system knownHashes data shared h hcrash,
        answer_of_crashes crates system knownHashes data shared h hcrash']
    · rw [answer_of_unidentified crates system knownHashes data shared h htext,
        answer_of_unidentified crates system knownHashes data shared h htext']
    · rw [answer_of_heldByLock crates system knownHashes data shared h hheld,
        answer_of_heldByLock crates system knownHashes data shared h hheld']
    · rw [answer_of_routedTo crates system knownHashes data shared h hrouted,
        answer_of_routedTo crates system knownHashes data shared h hrouted']
    · rw [answer_of_routedTo crates system knownHashes data shared h hrouted,
        answer_of_routedTo crates system knownHashes data shared h hrouted', hfailed, hfailed']
      rfl

end SignRequest

/-- The answers to two sign requests of one client for the same data differ, unless
they name one PID, the store's mutex is poisoned, or the answer does not tell the
two PIDs apart. The peer's own PID has no part in it. -/
theorem sign_answers_eq_iff {codec : IpcCodec} {stream stream' : Bytes} {pid pid' : Nat}
    {data : Bytes} (hread : readRequest codec stream = .ok (.sign pid data))
    (hread' : readRequest codec stream' = .ok (.sign pid' data)) (crates : Crates)
    (system : System) (knownHashes : KnownHashes) (peerPid : Nat) (shared : Shared) :
    (handleConnection crates system codec knownHashes stream peerPid shared).1 =
        (handleConnection crates system codec knownHashes stream' peerPid shared).1 ↔
      pid = pid' ∨ shared.poisoned = true ∨
        AnsweredAlike crates system knownHashes data shared pid pid' := by
  rw [handleConnection_of_read hread, handleConnection_of_read hread', dispatch, dispatch]
  cases hpoisoned : shared.poisoned with
  | true =>
      rw [answerSign, answerSign, withStore_poisoned _ hpoisoned, withStore_poisoned _ hpoisoned]
      simp
  | false =>
      rw [answerSign_eq_iff crates system knownHashes data shared pid pid' hpoisoned]
      simp

section TwoApplications

def twoAppsDatabase : Database :=
  { certs := [
      { id := "c1", label := "Work", certDer := [48], fingerprint := "f1", subject := "CN=work",
        issuer := "CN=ca", notBefore := 0, notAfter := 1, createdAt := 0 },
      { id := "c2", label := "Home", certDer := [49], fingerprint := "f2", subject := "CN=home",
        issuer := "CN=ca", notBefore := 0, notAfter := 1, createdAt := 0 }]
    keys := [
      { id := "k1", certId := "c1", algorithm := "EcP256", keyEnc := 3 :: List.replicate 16 0,
        keySalt := List.replicate 16 0, keyNonce := List.replicate 12 0 },
      { id := "k2", certId := "c2", algorithm := "EcP256", keyEnc := 4 :: List.replicate 16 0,
        keySalt := List.replicate 16 0, keyNonce := List.replicate 12 0 }]
    apps := [
      { id := "a1", label := "VSCode", exePath := "/usr/bin/code",
        exeHash := String.ofList (List.replicate 64 '0'), registeredAt := 0 },
      { id := "a2", label := "Curl", exePath := "/usr/bin/curl",
        exeHash := String.ofList (List.replicate 64 '0'), registeredAt := 0 }]
    routes := [
      { id := "r1", certId := "c1", appId := some "a1", matchType := "hostname", pattern := none,
        requireBoth := 1, priority := 0, createdAt := 0 },
      { id := "r2", certId := "c2", appId := some "a2", matchType := "hostname", pattern := none,
        requireBoth := 1, priority := 0, createdAt := 0 }] }

/-- The CLI runs as 5, the two applications as 7 and 8. -/
def twoAppsSystem : System :=
  quietSystem [(5, "/usr/bin/cone"), (7, "/usr/bin/code"), (8, "/usr/bin/curl")]
    [("/usr/bin/cone", []), ("/usr/bin/code", []), ("/usr/bin/curl", [])]

def coneIsKnown : KnownHashes := fun path =>
  if path = "/usr/bin/cone" then some (String.ofList (List.replicate 64 '0')) else none

def signText (pid : Nat) : Bytes :=
  asBytes ("\x7b\"type\":\"Sign\",\"pid\":" ++ toString pid ++ ",\"data\":[1]\x7d")

def signPhrases : IpcCodec :=
  phrasebook [(signText 7, .sign 7 [1]), (signText 8, .sign 8 [1])]

theorem sign_answers_eq_iff_for_two_apps :
    (handleConnection plainCrates twoAppsSystem signPhrases coneIsKnown
          (LengthFraming.frame (signText 7)) 5
          { store := .unlocked twoAppsDatabase [], poisoned := false, cache := fun _ => none }).1 =
        (handleConnection plainCrates twoAppsSystem signPhrases coneIsKnown
          (LengthFraming.frame (signText 8)) 5
          { store := .unlocked twoAppsDatabase [], poisoned := false, cache := fun _ => none }).1 ↔
      7 = 8 ∨ false = true ∨
        AnsweredAlike plainCrates twoAppsSystem coneIsKnown [1]
          { store := .unlocked twoAppsDatabase [], poisoned := false, cache := fun _ => none } 7 8 :=
  sign_answers_eq_iff (by decide) (by decide) plainCrates twoAppsSystem coneIsKnown 5 _

/-- The CLI passes the check of the connection, and is then given a signature by
the certificate of either application, as the PID it names says. -/
theorem claimed_pid_selects_the_certificate :
    (verifyTrafficConeBinary plainCrates twoAppsSystem 1000 5 1000 coneIsKnown fun _ => none).1 =
        .ok
          { pid := 5
            exePath := "/usr/bin/cone"
            exeHash := String.ofList (List.replicate 64 '0')
            startTime := 500 } ∧
      readRequest signPhrases (LengthFraming.frame (signText 7)) = .ok (.sign 7 [1]) ∧
      readRequest signPhrases (LengthFraming.frame (signText 8)) = .ok (.sign 8 [1]) ∧
      (handleConnection plainCrates twoAppsSystem signPhrases coneIsKnown
          (LengthFraming.frame (signText 7)) 5
          { store := .unlocked twoAppsDatabase [], poisoned := false, cache := fun _ => none }).1 ≠
        (handleConnection plainCrates twoAppsSystem signPhrases coneIsKnown
          (LengthFraming.frame (signText 8)) 5
          { store := .unlocked twoAppsDatabase [], poisoned := false, cache := fun _ => none }).1 := by
  decide +kernel

end TwoApplications

end TrafficCone.ClaimedPidInfluence
