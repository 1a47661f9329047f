import ProbeLink.Backend.Basic

/-!
# ProbeLink.Backend.Retry

The **retry policy** that all backends share.

* `sendAll` sends every byte it is given, in as many transfers as that takes.
* `receiveSome` receives until something has arrived, at most one chunk.
* An attempt that moved nothing takes one of the tries; in `sendAll` any progress restores them all.
* A timeout that moved something counts as progress. A failure of the connection is final, whatever
  its kind: what is a timeout and what is a failure was decided by the backend that reports it.
-/

namespace ProbeLink.Backend

variable {β : Type} [Backend β]

/-- The events of one physical send: the transfer, and a log line unless it went well. -/
def sendEvents (offered : Bytes) (attempt : Attempt Nat) : List Event :=
  .sent offered attempt :: match attempt with
    | .moved _ => []
    | .timedOut n => [.noted (.sendTimedOut n)]
    | .failed cause => [.noted (.sendFailed cause)]

/-- The events of one physical receive: the transfer, and a log line unless it went well. -/
def receiveEvents (capacity : Nat) (attempt : Attempt Bytes) : List Event :=
  .received capacity attempt :: match attempt with
    | .moved _ => []
    | .timedOut bytes => [.noted (.receiveTimedOut bytes.length)]
    | .failed cause => [.noted (.receiveFailed cause)]

/-- Sends all of `data`, with `tries` attempts left that may move nothing. -/
def sendLoop (maxTimeouts : Nat) : (tries : Nat) → (data : Bytes) → β → Outcome β Unit
  | _, [], backend => ⟨.ok (), backend, []⟩
  | 0, _ :: _, backend => ⟨.error (.timeout .send), backend, [.noted .sendGaveUp]⟩
  | tries + 1, byte :: rest, backend =>
    let sent := sendOnce backend (byte :: rest)
    match sent.1.progress with
    | .error cause => ⟨.error (.io .send cause), sent.2, sendEvents (byte :: rest) sent.1⟩
    | .ok 0 =>
      (sendLoop maxTimeouts tries (byte :: rest) sent.2).after (sendEvents (byte :: rest) sent.1)
    | .ok (n + 1) =>
      (sendLoop maxTimeouts maxTimeouts (rest.drop n) sent.2).after
        (sendEvents (byte :: rest) sent.1)
termination_by tries data => (data.length, tries)
decreasing_by
  · exact Prod.Lex.right _ (Nat.lt_succ_self _)
  · exact Prod.Lex.left _ _ (by simp only [List.length_drop, List.length_cons]; omega)

/-- Sends all of `data`; `maxTimeouts` attempts in a row may move nothing. -/
def sendAll (maxTimeouts : Nat) (data : Bytes) : Run β Unit :=
  sendLoop maxTimeouts maxTimeouts data

/-- Receives at most `capacity` bytes, at least one, in at most `tries` attempts. -/
def receiveLoop (capacity : Nat) : (tries : Nat) → β → Outcome β Bytes
  | 0, backend => ⟨.error (.timeout .receive), backend, [.noted .receiveGaveUp]⟩
  | tries + 1, backend =>
    let received := receiveOnce backend capacity
    match received.1.progress with
    | .error cause =>
      ⟨.error (.io .receive cause), received.2, receiveEvents capacity received.1⟩
    | .ok [] =>
      (receiveLoop capacity tries received.2).after (receiveEvents capacity received.1)
    | .ok (byte :: rest) =>
      ⟨.ok ((byte :: rest).take capacity), received.2, receiveEvents capacity received.1⟩

/-- Receives one piece of at most `capacity` bytes. -/
def receiveSome (capacity maxTimeouts : Nat) : Run β Bytes :=
  receiveLoop capacity maxTimeouts

/-- A received piece fits into the room there was. -/
theorem length_receiveLoop_le {capacity tries : Nat} {backend : β} {piece : Bytes}
    (h : (receiveLoop capacity tries backend).result = .ok piece) : piece.length ≤ capacity := by
  induction tries generalizing backend with
  | zero => simp [receiveLoop] at h
  | succ tries ih =>
    rw [receiveLoop] at h
    split at h
    · cases h
    · exact ih h
    · cases h
      exact List.length_take_le _ _

/-- A received piece is not empty. -/
theorem length_receiveLoop_pos {capacity tries : Nat} {backend : β} {piece : Bytes}
    (hc : 0 < capacity) (h : (receiveLoop capacity tries backend).result = .ok piece) :
    0 < piece.length := by
  induction tries generalizing backend with
  | zero => simp [receiveLoop] at h
  | succ tries ih =>
    rw [receiveLoop] at h
    split at h
    · cases h
    · exact ih h
    · cases h
      simp only [List.length_take, List.length_cons]
      omega

end ProbeLink.Backend
