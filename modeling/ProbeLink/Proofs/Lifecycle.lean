import ProbeLink.Backend.Stream
import ProbeLink.Session

/-!
# ProbeLink.Proofs.Lifecycle

**A device has one session at a time**, and can always be opened again once that is over.

The mark of an open session, the counter of references and the sessions that clients hold are three
things, and opening, closing and dropping change them one after the other. `SharedDevice` goes through
these motions. Its mark is set before there is a connection, and is taken back where there comes none.
Its sessions are a list: only the mark keeps clients from holding more than one.

That the three agree is `Consistent`. Every step keeps it, failed ones included
(`consistent_perform`), and in agreement they are what a `Session` says of them (`perform_shared`).
-/

namespace ProbeLink

/-- A device with everything that changes in it, and the sessions that clients hold, the latest
first. -/
structure SharedDevice (β : Type) where
  device : Device
  /-- The mark of an open session. -/
  isOpen : Bool
  /-- The counter of references. -/
  references : Nat
  /-- References that were taken and not yet given back, besides the first. -/
  kept : Nat
  /-- The transports of the sessions. -/
  sessions : List (Transport β)

namespace SharedDevice

variable {β : Type}

/-! ### The motions -/

/-- A device just found. -/
def found (device : Device) : SharedDevice β := ⟨device, false, 1, 0, []⟩

/-- Sets or clears the mark. -/
def mark (isOpen : Bool) (s : SharedDevice β) : SharedDevice β := { s with isOpen := isOpen }

/-- Counts one more reference. -/
def clone (s : SharedDevice β) : SharedDevice β := { s with references := s.references + 1 }

/-- Counts one reference less. -/
def forget (s : SharedDevice β) : SharedDevice β := { s with references := s.references - 1 }

/-- A client keeps another reference. -/
def acquire (s : SharedDevice β) : SharedDevice β := { s.clone with kept := s.kept + 1 }

/-- A client gives a reference back, if it kept one. -/
def release (s : SharedDevice β) : SharedDevice β :=
  if s.kept = 0 then s else { s.forget with kept := s.kept - 1 }

/-- Opens a session. Whoever finds the mark set leaves it so and fails. -/
def openWith (memory : Nat) (config : ValidConfig) (connection : Except OpenError β) :
    Run (SharedDevice β) Unit := fun s =>
  let wasOpen := s.isOpen
  let s := s.mark true
  if wasOpen then ⟨.error (.opening .alreadyOpen), s, [.noted (.alreadyOpen s.device.text)]⟩
  else
    let (transport, events) := Session.connect memory config connection
    match transport with
    | .ok transport => ⟨.ok (), { s.clone with sessions := transport :: s.sessions }, events⟩
    | .error error =>
      ⟨.error error, s.mark false, events ++ [.noted (.openFailed s.device.text error)]⟩

/-- Drops the latest session: it clears the mark, and then gives up its reference. -/
def dropSession (s : SharedDevice β) : SharedDevice β :=
  { (s.mark false).forget with sessions := s.sessions.tail }

/-- Closes the latest session. While it is dropped, closing itself refers to the device. -/
def close [Backend β] (t : Transport β) : Run (SharedDevice β) Unit := fun s =>
  let error? := Backend.releaseError? t.backend
  let s := s.clone.dropSession
  match error? with
  | none => ⟨.ok (), s.forget, []⟩
  | some cause => ⟨.error (.release cause), s.forget, [.noted (.releaseFailed s.device.text cause)]⟩

/-- Makes a call on the latest session. -/
def call [Backend β] (operation : Operation) (t : Transport β) : Run (SharedDevice β) Reply :=
  fun s => (operation.perform t).inState fun t => { s with sessions := t :: s.sessions.tail }

/-- Does what a client does. Without a session, closing and calling have nothing to act on. -/
def perform [Backend β] (s : SharedDevice β) :
    Session.Step β → Option (Outcome (SharedDevice β) Reply)
  | .acquire => some ⟨.ok .done, s.acquire, []⟩
  | .release => some ⟨.ok .done, s.release, []⟩
  | .open memory config connection =>
    some ((openWith memory config connection s).map fun _ => .done)
  | .close => s.sessions.head?.map fun t => (close t s).map fun _ => .done
  | .drop => some ⟨.ok .done, if s.sessions = [] then s else s.dropSession, []⟩
  | .call operation => s.sessions.head?.map fun t => call operation t s

/-! ### Agreement -/

/-- The mark, the counter and the sessions agree, and there is at most one session. -/
structure Consistent (s : SharedDevice β) : Prop where
  single : s.sessions.length ≤ 1
  isOpen : s.isOpen = true ↔ s.sessions ≠ []
  references : s.references = 1 + s.kept + s.sessions.length

/-- A device without a session. -/
def idle (device : Device) (kept : Nat) : SharedDevice β := ⟨device, false, kept + 1, kept, []⟩

/-- A device with a session. -/
def live (device : Device) (kept : Nat) (t : Transport β) : SharedDevice β :=
  ⟨device, true, kept + 2, kept, [t]⟩

theorem consistent_idle (device : Device) (kept : Nat) :
    Consistent (idle device kept : SharedDevice β) :=
  ⟨Nat.zero_le 1, by simp [idle], Nat.add_comm kept 1⟩

theorem consistent_live (device : Device) (kept : Nat) (t : Transport β) :
    Consistent (live device kept t) :=
  ⟨Nat.le_refl 1, by simp [live], congrArg (· + 1) (Nat.add_comm kept 1)⟩

/-- A device in agreement has no session, or one. -/
theorem Consistent.cases {s : SharedDevice β} (h : Consistent s) :
    ∃ device kept, s = idle device kept ∨ ∃ t, s = live device kept t := by
  obtain ⟨device, isOpen, references, kept, sessions⟩ := s
  obtain ⟨hsingle, hopen, hreferences⟩ := h
  simp only at hsingle hopen hreferences
  refine ⟨device, kept, ?_⟩
  cases sessions with
  | nil =>
    have hclosed : isOpen = false := by simpa using hopen
    have hcounted : references = kept + 1 := hreferences.trans (Nat.add_comm 1 kept)
    subst hclosed hcounted
    exact .inl rfl
  | cons t later =>
    have hmarked : isOpen = true := by simpa using hopen
    have hnone : later = [] :=
      List.length_eq_zero_iff.1 (Nat.le_zero.1 (Nat.le_of_succ_le_succ hsingle))
    subst hnone
    have hcounted : references = kept + 2 :=
      hreferences.trans (congrArg (· + 1) (Nat.add_comm 1 kept))
    subst hmarked hcounted
    exact .inr ⟨t, rfl⟩

/-! ### One step -/

/-- Opening a device without a session makes one, or leaves it as it was. -/
theorem openWith_idle (memory : Nat) (config : ValidConfig) (connection : Except OpenError β)
    (device : Device) (kept : Nat) :
    (openWith memory config connection (idle device kept)).state =
      match (Session.connect memory config connection).1 with
      | .ok t => live device kept t
      | .error _ => idle device kept := by
  simp only [openWith, idle]
  rcases Session.connect memory config connection with ⟨e | t, events⟩
  · rfl
  · rfl

variable [Backend β]

theorem close_live (device : Device) (kept : Nat) (t : Transport β) :
    (close t (live device kept t)).state = idle device kept := by
  unfold close
  cases Backend.releaseError? t.backend with
  | none => rfl
  | some cause => rfl

/-- **Every step keeps mark, counter and sessions in agreement**, whatever comes of it. -/
theorem consistent_perform {s : SharedDevice β} (h : Consistent s) {step : Session.Step β}
    {outcome : Outcome (SharedDevice β) Reply} (hperform : s.perform step = some outcome) :
    Consistent outcome.state := by
  obtain ⟨device, kept, rfl | ⟨t, rfl⟩⟩ := h.cases
  case inl =>
    cases step with
    | acquire =>
      cases hperform
      exact consistent_idle device (kept + 1)
    | release =>
      cases hperform
      cases kept with
      | zero => exact consistent_idle device 0
      | succ kept => exact consistent_idle device kept
    | «open» memory config connection =>
      cases hperform
      rw [Outcome.state_map, openWith_idle]
      split
      · next t _ => exact consistent_live device kept t
      · exact consistent_idle device kept
    | close => cases hperform
    | drop =>
      cases hperform
      exact consistent_idle device kept
    | call operation => cases hperform
  case inr =>
    cases step with
    | acquire =>
      cases hperform
      exact consistent_live device (kept + 1) t
    | release =>
      cases hperform
      cases kept with
      | zero => exact consistent_live device 0 t
      | succ kept => exact consistent_live device kept t
    | «open» memory config connection =>
      cases hperform
      exact consistent_live device kept t
    | close =>
      cases hperform
      rw [Outcome.state_map, close_live]
      exact consistent_idle device kept
    | drop =>
      cases hperform
      exact consistent_idle device kept
    | call operation =>
      cases hperform
      exact consistent_live device kept (operation.perform t).state

/-! ### Runs -/

/-- The state after a list of steps. -/
def after (steps : List (Session.Step β)) (s : SharedDevice β) : SharedDevice β :=
  steps.foldl (fun s step => (s.perform step).elim s Outcome.state) s

/-- **At every point of a run mark, counter and sessions agree.** -/
theorem consistent_after {s : SharedDevice β} (h : Consistent s) (steps : List (Session.Step β)) :
    Consistent (s.after steps) := by
  induction steps generalizing s with
  | nil => exact h
  | cons step later ih =>
    refine ih ?_
    show Consistent ((s.perform step).elim s Outcome.state)
    cases hperform : s.perform step with
    | none => exact h
    | some outcome => exact consistent_perform h hperform

end SharedDevice

/-! ### Sessions -/

namespace Session

variable {β : Type}

/-- The shared device that a session is on. -/
def shared (s : Session β) : SharedDevice β :=
  ⟨s.device, s.isOpen, s.references, s.kept, s.transport?.toList⟩

/-- A device without a session. -/
def idle (device : Device) (kept : Nat) : Session β := ⟨device, false, kept + 1, kept, none⟩

/-- A device with a session. -/
def live (device : Device) (kept : Nat) (t : Transport β) : Session β :=
  ⟨device, true, kept + 2, kept, some t⟩

theorem cases_of_consistent {s : Session β} (h : s.shared.Consistent) :
    ∃ device kept, s = idle device kept ∨ ∃ t, s = live device kept t := by
  obtain ⟨device, isOpen, references, kept, transport?⟩ := s
  obtain ⟨device', kept', hshared | ⟨t, hshared⟩⟩ := h.cases
  · simp only [shared, SharedDevice.idle, SharedDevice.mk.injEq, Option.toList_eq_nil_iff]
      at hshared
    obtain ⟨rfl, rfl, rfl, rfl, rfl⟩ := hshared
    exact ⟨device, kept, .inl rfl⟩
  · simp only [shared, SharedDevice.live, SharedDevice.mk.injEq, Option.toList_eq_singleton_iff]
      at hshared
    obtain ⟨rfl, rfl, rfl, rfl, rfl⟩ := hshared
    exact ⟨device, kept, .inr ⟨t, rfl⟩⟩

variable [Backend β]

/-- **In agreement, the shared device does what the session does**: the result and the events are
the same, and so is all that can be seen afterwards. -/
theorem perform_shared {s : Session β} (h : s.shared.Consistent) (step : Step β) :
    s.shared.perform step = (s.perform step).map (·.inState shared) := by
  obtain ⟨device, kept, rfl | ⟨t, rfl⟩⟩ := cases_of_consistent h
  case inl =>
    cases step with
    | acquire => rfl
    | release => cases kept <;> rfl
    | «open» memory config connection =>
      simp only [SharedDevice.perform, perform, SharedDevice.openWith, openWith, shared, idle]
      rcases connect memory config connection with ⟨e | t, events⟩ <;> rfl
    | close => rfl
    | drop => rfl
    | call operation => rfl
  case inr =>
    cases step with
    | acquire => rfl
    | release => cases kept <;> rfl
    | «open» memory config connection => rfl
    | close =>
      simp only [SharedDevice.perform, perform, shared, live, Option.toList, List.head?_cons,
        Option.map_some, SharedDevice.close, close]
      cases Backend.releaseError? t.backend <;> rfl
    | drop => rfl
    | call operation => rfl

/-- The state after a list of steps. -/
def after (steps : List (Step β)) (s : Session β) : Session β :=
  steps.foldl (fun s step => (s.perform step).elim s Outcome.state) s

/-- **A session is all that can be seen of its device**, at every point of a run. -/
theorem after_shared {s : Session β} (h : s.shared.Consistent) (steps : List (Step β)) :
    (s.after steps).shared = s.shared.after steps := by
  induction steps generalizing s with
  | nil => rfl
  | cons step later ih =>
    have hperform := perform_shared h step
    have hstep : ((s.perform step).elim s Outcome.state).shared =
        (s.shared.perform step).elim s.shared Outcome.state := by
      rw [hperform]
      cases s.perform step <;> rfl
    have hnext : ((s.perform step).elim s Outcome.state).shared.Consistent := by
      have hlast := SharedDevice.consistent_after h [step]
      rwa [hstep]
    show (after later ((s.perform step).elim s Outcome.state)).shared = _
    rw [ih hnext, hstep]
    rfl

/-! ### Opening and closing -/

omit [Backend β] in
/-- Making a connection never fails for a session that is there already, unless that is what the
connection itself reports. -/
theorem connect_ne_alreadyOpen (memory : Nat) (config : ValidConfig)
    {connection : Except OpenError β} (h : connection ≠ .error .alreadyOpen) :
    (connect memory config connection).1 ≠ .error (.opening .alreadyOpen) := by
  intro hconnect
  cases connection with
  | error e =>
    cases hconnect
    exact h rfl
  | ok backend =>
    simp only [connect, Transport.create] at hconnect
    split at hconnect
    · cases hconnect
    · cases hconnect

/-- No session is live on the device, and one can be opened. -/
structure Openable (s : Session β) : Prop where
  isOpen : s.isOpen = false
  transport? : s.transport? = none
  opens : ∀ memory config backend, config.bufferSize ≤ memory →
    (openWith memory config (.ok backend) s).result = .ok ()

omit [Backend β] in
theorem openable_idle (device : Device) (kept : Nat) : Openable (idle device kept : Session β) := by
  refine ⟨rfl, rfl, fun memory config backend hmemory => ?_⟩
  simp only [openWith, idle, connect, Transport.create, if_pos hmemory]
  rfl

/-- What opening does on a device that has a session or none: it is refused exactly if there is one,
and a failure changes nothing. -/
structure OpensOnce (s : Session β) (opened : Outcome (Session β) Unit) : Prop where
  alreadyOpen : opened.result = .error (.opening .alreadyOpen) ↔ s.transport? ≠ none
  undisturbed : s.transport? ≠ none → opened.state = s
  failed : ∀ e, opened.result = .error e → e ≠ .opening .alreadyOpen →
    opened.state.references = s.references ∧ Openable opened.state

omit [Backend β] in
theorem opensOnce_idle (memory : Nat) (config : ValidConfig) {connection : Except OpenError β}
    (h : connection ≠ .error .alreadyOpen) (device : Device) (kept : Nat) :
    OpensOnce (idle device kept) (openWith memory config connection (idle device kept)) := by
  have hconnect := connect_ne_alreadyOpen memory config h
  simp only [openWith, idle]
  rcases hmade : connect memory config connection with ⟨e | t, events⟩
  · refine ⟨?_, fun hlive => absurd rfl hlive, fun e' _ _ => ⟨rfl, openable_idle device kept⟩⟩
    refine iff_of_false (fun hresult => ?_) (fun hlive => hlive rfl)
    cases hresult
    exact hconnect (congrArg Prod.fst hmade)
  · refine ⟨?_, fun hlive => absurd rfl hlive, fun e' he _ => by cases he⟩
    exact iff_of_false (fun hresult => by cases hresult) (fun hlive => hlive rfl)

omit [Backend β] in
theorem opensOnce_live (memory : Nat) (config : ValidConfig) (connection : Except OpenError β)
    (device : Device) (kept : Nat) (t : Transport β) :
    OpensOnce (live device kept t) (openWith memory config connection (live device kept t)) := by
  refine ⟨?_, fun _ => rfl, fun e he hne => ?_⟩
  · exact iff_of_true rfl (fun hnone => by cases hnone)
  · cases he
    exact absurd rfl hne

/-- Giving up a session: the device loses a reference, and can be opened again. -/
structure GivesUp (s s' : Session β) : Prop where
  references : s'.references + 1 = s.references
  openable : Openable s'

theorem givesUp_close (device : Device) (kept : Nat) (t : Transport β) :
    GivesUp (live device kept t) (close t (live device kept t)).state := by
  have hidle : (close t (live device kept t)).state = idle device kept := by
    unfold close
    cases Backend.releaseError? t.backend with
    | none => rfl
    | some cause => rfl
  rw [hidle]
  exact ⟨rfl, openable_idle device kept⟩

/-- **A device has one session at a time, and its mark and its references say so**, at every point of
every run. Opening it fails for that reason exactly if a session is live, and leaves that session and
all counts alone. If opening fails for another reason, or the session is closed or dropped, whatever
closing reports, the device can be opened again. -/
theorem session_lifecycle (device : Device) (steps : List (Step β)) :
    let s := (found device).after steps
    (s.shared = (SharedDevice.found device).after steps ∧ s.shared.Consistent) ∧
    (∀ memory config connection, connection ≠ .error .alreadyOpen →
      OpensOnce s (openWith memory config connection s)) ∧
    ∀ t, s.transport? = some t → GivesUp s (close t s).state ∧ GivesUp s s.drop := by
  intro s
  have hfound : (found device : Session β).shared.Consistent := SharedDevice.consistent_idle device 0
  have hshared : s.shared = (SharedDevice.found device).after steps := after_shared hfound steps
  have hconsistent : s.shared.Consistent := by
    rw [hshared]
    exact SharedDevice.consistent_after hfound steps
  refine ⟨⟨hshared, hconsistent⟩, ?_⟩
  clear_value s
  obtain ⟨device, kept, rfl | ⟨t, rfl⟩⟩ := cases_of_consistent hconsistent
  · refine ⟨fun memory config connection h => opensOnce_idle memory config h device kept, ?_⟩
    intro t ht
    cases ht
  · refine ⟨fun memory config connection _ => opensOnce_live memory config connection device kept t,
      ?_⟩
    rintro t' ht
    cases ht
    exact ⟨givesUp_close device kept t, rfl, openable_idle device kept⟩

/-- A device that could not be reached at first, and was reset during its session: closing reports
that, and the device can be opened again. -/
theorem openable_after_failed_release :
    let device : Device := ⟨.usb ⟨1, 2⟩, none⟩
    let config := ValidConfig.default
    let reset : Backend.Stream := Backend.Stream.connected.reset
    let steps : List (Step Backend.Stream) :=
      [.acquire, .open 4096 config (.error .notFound), .open 4096 config (.ok reset)]
    let s := (found device).after steps
    let t := Transport.fresh config reset
    s.references = 3 ∧
      (openWith 4096 config (.ok reset) s).result = .error (.opening .alreadyOpen) ∧
      (close t s).result = .error (.release Backend.Stream.notConnected) ∧
      (close t s).state.references = 2 ∧ Openable (close t s).state := by
  intro device config reset steps s t
  have hlive : s.transport? = some t := rfl
  obtain ⟨-, hopen, hclose⟩ := session_lifecycle device steps
  have hrefused := (hopen 4096 config (.ok reset) (fun h => by cases h)).alreadyOpen.2
    (fun hnone => by cases hlive.symm.trans hnone)
  have hgone := (hclose t hlive).1
  exact ⟨rfl, hrefused, rfl, rfl, hgone.openable⟩

end Session

end ProbeLink
