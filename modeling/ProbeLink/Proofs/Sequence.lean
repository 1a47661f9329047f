import ProbeLink.Proofs.Conduct

/-!
# ProbeLink.Proofs.Sequence

**A list of commands, gone through up to the first that fails** (`Operation.tried`), and how a part of
the command line that goes through such a list is put together (`Plays`): one command comes in front
(`plays_cons`), and what the user is told in between is no request (`Plays.noteAll`).

Of what the user is told, only the lines about other clients count here.
-/

namespace ProbeLink

variable {β : Type} [Backend β]

/-! ### Commands up to the first failure -/

namespace Operation

/-- What the commands of a list come to, up to the first that fails. -/
def tried : List Operation → Transport β → List (Outcome (Transport β) Reply)
  | [], _ => []
  | operation :: later, t =>
    let outcome := operation.perform t
    outcome :: if outcome.result.isOk then tried later outcome.state else []

variable {operation : Operation} {later : List Operation} {t : Transport β}

theorem tried_cons_of_ok (h : (operation.perform t).result.isOk = true) :
    tried (operation :: later) t =
      operation.perform t :: tried later (operation.perform t).state := by
  rw [tried, if_pos h]

theorem tried_cons_of_error (h : (operation.perform t).result.isOk = false) :
    tried (operation :: later) t = [operation.perform t] := by
  simp [tried, h]

theorem length_tried_pos (operation : Operation) (later : List Operation) (t : Transport β) :
    0 < (tried (operation :: later) t).length := by
  rw [tried, List.length_cons]
  exact Nat.succ_pos _

theorem length_tried_le (commands : List Operation) (t : Transport β) :
    (tried commands t).length ≤ commands.length := by
  induction commands generalizing t with
  | nil => exact Nat.le_refl 0
  | cons operation later ih =>
    cases h : (operation.perform t).result.isOk with
    | true =>
      rw [tried_cons_of_ok h]
      exact Nat.succ_le_succ (ih _)
    | false =>
      rw [tried_cons_of_error h]
      exact Nat.succ_le_succ (Nat.zero_le _)

theorem length_run (commands : List Operation) (t : Transport β) :
    (run commands t).length = commands.length := by
  induction commands generalizing t with
  | nil => rfl
  | cons operation later ih => simp [run, ih]

/-- What one command of a list comes to is what it comes to after those before it. -/
theorem getElem?_run (commands : List Operation) (t : Transport β) (i : Nat) :
    (run commands t)[i]? =
      commands[i]?.map fun operation => operation.perform (stateAfter (commands.take i) t) := by
  induction commands generalizing t i with
  | nil => rfl
  | cons operation later ih =>
    cases i with
    | zero => rfl
    | succ i => exact ih (operation.perform t).state i

/-- Did the command at this place succeed? -/
def Succeeded (outcomes : List (Outcome (Transport β) Reply)) (i : Nat) : Prop :=
  ∃ outcome, outcomes[i]? = some outcome ∧ outcome.result.isOk = true

/-- **The next command is tried exactly if the one before it was, and succeeded.** -/
theorem lt_length_tried_iff (commands : List Operation) (t : Transport β) {i : Nat}
    (hi : i + 1 < commands.length) :
    i + 1 < (tried commands t).length ↔
      i < (tried commands t).length ∧ Succeeded (run commands t) i := by
  induction commands generalizing t i with
  | nil => cases hi
  | cons operation later ih =>
    cases h : (operation.perform t).result.isOk with
    | true =>
      rw [tried_cons_of_ok h, List.length_cons, run]
      cases i with
      | zero =>
        obtain ⟨next, others, rfl⟩ : ∃ next others, later = next :: others :=
          List.exists_cons_of_length_pos (Nat.lt_of_succ_lt_succ hi)
        have hpos := length_tried_pos next others (operation.perform t).state
        exact iff_of_true (Nat.succ_lt_succ hpos) ⟨Nat.succ_pos _, _, rfl, h⟩
      | succ i =>
        have hlater := ih (operation.perform t).state (Nat.lt_of_succ_lt_succ hi)
        simp only [Nat.add_lt_add_iff_right, Succeeded, List.getElem?_cons_succ] at hlater ⊢
        exact hlater
    | false =>
      rw [tried_cons_of_error h, List.length_singleton]
      refine iff_of_false (by omega) ?_
      rintro ⟨hfirst, outcome, hget, hok⟩
      obtain rfl : i = 0 := by omega
      rw [run, List.getElem?_cons_zero] at hget
      cases hget
      rw [h] at hok
      cases hok

/-- Once the last but one is tried and succeeds, all are tried. -/
theorem length_tried_of_last {commands : List Operation} {t : Transport β} {i : Nat}
    (hlength : commands.length = i + 2) (hi : i < (tried commands t).length)
    (hok : Succeeded (run commands t) i) : (tried commands t).length = commands.length := by
  have hlast : i + 1 < commands.length := hlength ▸ Nat.lt_succ_self (i + 1)
  have hnext : i + 1 < (tried commands t).length :=
    (lt_length_tried_iff commands t hlast).2 ⟨hi, hok⟩
  have hle := length_tried_le commands t
  omega

/-- Every command is tried and succeeds. -/
theorem tried_eq_run {commands : List Operation} {t : Transport β}
    (h : ∀ outcome ∈ run commands t, outcome.result.isOk = true) :
    tried commands t = run commands t := by
  induction commands generalizing t with
  | nil => rfl
  | cons operation later ih =>
    rw [run, List.forall_mem_cons] at h
    rw [tried_cons_of_ok h.1, run, ih h.2]

end Operation

/-- The text of an address: its four octets in decimal, with dots between them. -/
theorem IPv4.ofList_text (ip : IPv4) :
    String.ofList ip.text = Nat.repr ip.a.toNat ++ "." ++ Nat.repr ip.b.toNat ++ "." ++
      Nat.repr ip.c.toNat ++ "." ++ Nat.repr ip.d.toNat := by
  refine String.toList_inj.1 ?_
  simp only [IPv4.text, IPv4.octets, Text.joinFields, List.map_cons, List.map_nil,
    String.toList_ofList, String.toList_append, List.append_assoc]
  rfl

namespace CommandLine

open Transport

/-! ### What is told about other clients -/

/-- Is a line about another client of the device? -/
def isOtherLine (line : String) : Bool := "  other connection".toList.isPrefixOf line.toList

/-- The other clients that a call has found registered, in the order of the table: those whose handle
is not the one that the device gave to this one. -/
def otherClients : Except Error Reply → List Connection
  | .ok (.registration registration) =>
    registration.connections.filter fun c => c.handle ≠ registration.connection.handle
  | _ => []

/-- The lines about the other clients that a call has found registered. -/
def otherLines (result : Except Error Reply) : List String := (otherClients result).map otherLine

/-- The words of a line about another client. -/
theorem otherLine_eq (c : Connection) :
    otherLine c = "  other connection: handle " ++ Nat.repr c.handle.toNat ++
      " pid " ++ Nat.repr c.pid.toNat ++
      " host " ++ (Nat.repr c.hid.a.toNat ++ "." ++ Nat.repr c.hid.b.toNat ++ "." ++
        Nat.repr c.hid.c.toNat ++ "." ++ Nat.repr c.hid.d.toNat) ++
      " (" ++ Nat.repr c.timestamp.toNat ++ " ms)" := by
  unfold otherLine
  dsimp only
  rw [IPv4.ofList_text]
  rfl

theorem isOtherLine_append (rest : String) :
    isOtherLine ("  other connection: handle " ++ rest) = true := by
  rw [isOtherLine, String.toList_append]
  rfl

theorem isOtherLine_otherLine (c : Connection) : isOtherLine (otherLine c) = true := by
  simp only [otherLine_eq, String.append_assoc]
  exact isOtherLine_append _

theorem isOtherLine_capabilities (text : String) : isOtherLine ("caps " ++ text) = false := by
  rw [isOtherLine, String.toList_append]
  rfl

theorem isOtherLine_extended (text : String) : isOtherLine ("ext caps " ++ text) = false := by
  rw [isOtherLine, String.toList_append]
  rfl

theorem isOtherLine_registered (handle : UInt16) :
    isOtherLine s!"registered with handle {handle}" = false := by
  simp only [isOtherLine, String.toList_append]
  rfl

theorem isOtherLine_unregistered (count : Nat) :
    isOtherLine s!"unregistered, {count} connections left" = false := by
  simp only [isOtherLine, String.toList_append, List.append_assoc]
  rfl

/-! ### Playing commands -/

variable {willing : β → Prop} {commands : List Operation} {t : Transport β} {said : List String}

/-- An outcome of going through a list of commands, once some lines about other clients are said. The
requests are those of the commands that were tried, and it succeeds if all of them do. -/
structure Plays (willing : β → Prop) (said : List String) (commands : List Operation)
    (t : Transport β) (outcome : Outcome (Transport β) Unit) : Prop where
  requests : requests outcome.events =
    (commands.take (Operation.tried commands t).length).map Operation.written
  others : (lines outcome.events).filter isOtherLine =
    said ++ (Operation.tried commands t).flatMap fun outcome => otherLines outcome.result
  result : outcome.result.isOk = true ↔
    ∀ outcome ∈ Operation.run commands t, outcome.result.isOk = true
  willing : willing outcome.state.backend

theorem plays_nothing (hw : willing t.backend) :
    Plays willing [] [] t ((pure () : Run (Transport β) Unit) t) where
  requests := rfl
  others := rfl
  result := iff_of_true rfl (by simp [Operation.run])
  willing := hw

omit [Backend β] in
theorem noteAll_bind (texts : List String) (next : Unit → Run (Transport β) Unit)
    (t : Transport β) :
    (Run.noteAll (texts.map Notice.told) >>= next) t =
      (next () t).after ((texts.map Notice.told).map .noted) :=
  Run.bind_of_ok next rfl

theorem lines_told (texts : List String) :
    lines ((texts.map Notice.told).map .noted) = texts := by
  simp [lines, Event.line?, Function.comp_def]

/-- The user is told something before the commands. -/
theorem Plays.noteAll {next : Unit → Run (Transport β) Unit}
    (h : Plays willing said commands t (next () t)) (texts : List String) :
    Plays willing (texts.filter isOtherLine ++ said) commands t
      ((Run.noteAll (texts.map Notice.told) >>= next) t) := by
  rw [noteAll_bind]
  refine ⟨?_, ?_, h.result, h.willing⟩
  · rw [Outcome.events_after, requests_append, requests_noted, h.requests, List.nil_append]
  · rw [Outcome.events_after, lines_append, lines_told, List.filter_append, h.others,
      List.append_assoc]

/-- A line that is not about another client. -/
theorem Plays.note {next : Unit → Run (Transport β) Unit}
    (h : Plays willing said commands t (next () t)) {text : String}
    (htext : isOtherLine text = false) :
    Plays willing said commands t ((Run.note (.told text) >>= next) t) := by
  have hall := h.noteAll [text]
  rwa [List.filter_cons_of_neg (by simp [htext])] at hall

/-- The user is told something at the end. -/
theorem plays_last (hw : willing t.backend) {text : String} (htext : isOtherLine text = false) :
    Plays willing [] [] t (Run.note (.told text) t) := by
  have hnote := (plays_nothing hw).note htext
  rwa [bind_pure] at hnote

/-- **One command, and those that follow it if it succeeds.** -/
theorem plays_cons (h : Obliging willing) {α : Type} {operation : Operation} {later : List Operation}
    {first : Run (Transport β) α} {wrap : α → Reply} {next : α → Run (Transport β) Unit}
    (hperform : operation.perform t = (first t).map wrap) (hinquiry : operation.isInquiry = true)
    (hw : willing t.backend)
    (hlater : ∀ a, (first t).result = .ok a → willing (first t).state.backend →
      Plays willing (otherLines (.ok (wrap a))) later (first t).state (next a (first t).state)) :
    Plays willing [] (operation :: later) t ((first >>= next) t) := by
  have hconducted := Operation.perform_conducted h hinquiry hw
  rw [hperform] at hconducted
  have hsent : requests (first t).events = [operation.written] := hconducted.requests
  have hsilent : lines (first t).events = [] := hconducted.lines
  have hwilling : willing (first t).state.backend := hconducted.willing
  cases hresult : (first t).result with
  | error e =>
    have hfails : (operation.perform t).result.isOk = false := by
      rw [hperform, Outcome.result_map, hresult]
      rfl
    have hnone : otherLines (operation.perform t).result = [] := by
      rw [hperform, Outcome.result_map, hresult]
      rfl
    rw [Run.bind_of_result_error next hresult]
    refine ⟨?_, ?_, ?_, hwilling⟩
    · rw [Operation.tried_cons_of_error hfails, hsent]
      rfl
    · rw [Operation.tried_cons_of_error hfails, hsilent, List.flatMap_singleton, hnone]
      rfl
    · refine iff_of_false (by simp [Except.isOk, Except.toBool]) ?_
      intro hall
      have hfirst := hall (operation.perform t) List.mem_cons_self
      rw [hfails] at hfirst
      cases hfirst
  | ok a =>
    have hok : (operation.perform t).result.isOk = true := by
      rw [hperform, Outcome.result_map, hresult]
      rfl
    have hstate : (operation.perform t).state = (first t).state := by rw [hperform]; rfl
    have hplays := hlater a hresult hwilling
    rw [Run.bind_of_result_ok next hresult]
    refine ⟨?_, ?_, ?_, hplays.willing⟩
    · rw [Operation.tried_cons_of_ok hok, hstate, Outcome.events_after, requests_append, hsent,
        hplays.requests]
      rfl
    · rw [Operation.tried_cons_of_ok hok, hstate, Outcome.events_after, lines_append, hsilent,
        List.nil_append, hplays.others, List.flatMap_cons, hperform, Outcome.result_map, hresult]
      rfl
    · rw [Operation.run, List.forall_mem_cons, hstate, Outcome.result_after, hplays.result]
      exact (and_iff_right hok).symm

end CommandLine

end ProbeLink
