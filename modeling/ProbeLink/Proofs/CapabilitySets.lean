import Mathlib
import ProbeLink.Capability
import ProbeLink.Proofs.Pieces

/-!
# ProbeLink.Proofs.CapabilitySets

**A set of capabilities is what the bits of its field say** (`contains_ofRaw_iff`, `mem_toList`),
however long the field was that it was read from: a bit is set exactly if the byte that holds it is
there and has it set.

A device may answer with the beginning of its field or with all of it. Either way the set is read
from the answer as it is, wherever it is cut into pieces (`learns_of_served`). All known bits lie in
the first four bytes, so that it makes no difference to them which of the two was asked for
(`contains_of_prefix`).
-/

namespace ProbeLink

namespace Bytes

/-- A bit field has a bit: it reaches as far as the byte that holds the bit, and there it is set. -/
def HasBit (field : Bytes) (k : Nat) : Prop :=
  ∃ byte, field[k / 8]? = some byte ∧ byte.toNat.testBit (k % 8) = true

/-- Taking missing bytes for zero adds no bits. -/
theorem testBit_getD_iff (field : Bytes) (k : Nat) :
    (field.getD (k / 8) 0).toNat.testBit (k % 8) = true ↔ field.HasBit k := by
  rw [HasBit, List.getD_eq_getElem?_getD]
  cases hbyte : field[k / 8]? with
  | none => simp
  | some byte => simp

/-- What follows a bit field leaves its bits as they are. -/
theorem hasBit_append {field : Bytes} {k : Nat} (h : k < 8 * field.length) (rest : Bytes) :
    (field ++ rest).HasBit k ↔ field.HasBit k := by
  have hbyte : k / 8 < field.length := by omega
  rw [HasBit, HasBit, List.getElem?_append_left hbyte]

end Bytes

namespace Capability

/-- Every known bit is in the part of the field that all devices answer with. -/
theorem bit_lt (capability : Capability) : capability.bit < 32 := by
  cases capability <;> decide

theorem pairwise_all : all.Pairwise fun a b => a.bit < b.bit := by decide

end Capability

namespace Capabilities

open Transport

/-! ### The bits of a field -/

/-- A written field is the one that was read, cut and filled up to its 32 bytes. -/
theorem toRaw_ofRaw (raw : Bytes) :
    (ofRaw raw).toRaw = raw.take 32 ++ List.replicate (32 - raw.length) 0 := by
  have hmissing : 32 - (raw.take 32).length = 32 - raw.length := by
    rw [List.length_take]
    omega
  show Bytes.padTo 32 (raw.take 32) = _
  rw [Bytes.padTo, hmissing]

theorem hasBit_ofRaw_iff (raw : Bytes) {k : Nat} (h : k < 256) :
    (ofRaw raw).hasBit k = true ↔ raw.HasBit k := by
  rw [hasBit, getD_field_ofRaw raw (by omega), Bytes.testBit_getD_iff]

/-- **A capability is in a set exactly if its bit is in the field that the set was read from.** -/
theorem contains_ofRaw_iff (raw : Bytes) (capability : Capability) :
    (ofRaw raw).contains capability = true ↔ raw.HasBit capability.bit :=
  hasBit_ofRaw_iff raw (Nat.lt_trans capability.bit_lt (by decide))

/-- **The beginning of a field tells as much about the known capabilities as all of it.** -/
theorem contains_of_prefix {first whole : Bytes} (hlength : 4 ≤ first.length)
    (h : first <+: whole) (capability : Capability) :
    (ofRaw first).contains capability = (ofRaw whole).contains capability := by
  obtain ⟨rest, rfl⟩ := h
  have hbit := capability.bit_lt
  rw [Bool.eq_iff_iff, contains_ofRaw_iff, contains_ofRaw_iff, Bytes.hasBit_append (by omega)]

/-! ### The list of a set -/

theorem mem_toList {set : Capabilities} {capability : Capability} :
    capability ∈ set.toList ↔ set.contains capability = true := by
  rw [toList, List.mem_filter]
  exact and_iff_right capability.mem_all

theorem pairwise_toList (set : Capabilities) : set.toList.Pairwise fun a b => a.bit < b.bit :=
  Capability.pairwise_all.filter _

/-- Capabilities in the order of their bits are distinct. -/
theorem nodup_toList (set : Capabilities) : set.toList.Nodup := by
  refine set.pairwise_toList.imp ?_
  intro a b hlt heq
  subst heq
  exact Nat.lt_irrefl a.bit hlt

/-! ### Asking a device -/

variable {β : Type} [Backend β] {t : Transport β} {pieces : List Bytes}

/-- What asking for a bit field comes to if the device answers with this one, and nothing else. -/
structure Learns (request answer : Bytes) (outcome : Outcome (Transport β) Capabilities) :
    Prop where
  result : outcome.result = .ok (ofRaw answer)
  sent : sentBytes outcome.events = request
  writeRemaining : outcome.state.writeRemaining = 0
  readExpected : outcome.state.readExpected = 0
  surplus : outcome.state.surplus = 0

/-- **The set is read from the answer as it is**, whatever its length, and wherever it is cut. -/
theorem learns_of_served {request : Bytes} {length : Nat} (hr : 0 < request.length)
    (hl : 0 < length) (hlength : pieces.flatten.length = length) (h : Served request pieces t) :
    Learns request pieces.flatten
      ((ofRaw <$> exchange request length : Run (Transport β) Capabilities) t) := by
  -- The answer ends where the operation does, so no policy has anything to refuse.
  have hcut : CutAt length pieces := hlength ▸ cutAt_all pieces
  have hexchanged := exchange_of_served hr hl h (Nat.le_of_eq hlength.symm) (.inr hcut)
  have hresult := hexchanged.result
  rw [List.take_of_length_le (Nat.le_of_eq hlength)] at hresult
  rw [Run.map_apply]
  refine ⟨?_, hexchanged.sent, hexchanged.written, hexchanged.complete,
    surplus_of_all (Nat.le_of_eq hlength) hexchanged.rest⟩
  rw [Outcome.result_map, hresult]
  rfl

theorem ask_learns (hlength : pieces.flatten.length = 4) (h : Served request pieces t) :
    Learns request pieces.flatten (ask t) :=
  learns_of_served (by decide) (by decide) hlength h

theorem askExtended_learns (hlength : pieces.flatten.length = 32)
    (h : Served extendedRequest pieces t) :
    Learns extendedRequest pieces.flatten (askExtended t) :=
  learns_of_served (by decide) (by decide) hlength h

/-- **What a device can do is read as it says it.** Writing a set gives the field that it was read
from, cut to 32 bytes or filled up with zeros, and reading that gives the set again. A capability is
in the set exactly if its bit is in the field, and the list of a set has each of its capabilities
once, by increasing bit. Whatever state a transport is in, if the device takes the request and
answers with its 4 bytes, or all 32 of them, cut into pieces anywhere, then the set is read from
these bytes. If the 4 are the beginning of the 32, both sets have the same known capabilities. -/
theorem capability_sets :
    (∀ raw : Bytes,
      (ofRaw raw).toRaw = raw.take 32 ++ List.replicate (32 - raw.length) 0 ∧
        ∀ capability : Capability,
          (ofRaw raw).contains capability = true ↔ raw.HasBit capability.bit) ∧
      (∀ set : Capabilities,
        ofRaw set.toRaw = set ∧
          (∀ capability : Capability,
            capability ∈ set.toList ↔ set.contains capability = true) ∧
          (set.toList.Pairwise fun a b => a.bit < b.bit) ∧ set.toList.Nodup) ∧
      (∀ (t : Transport β) (pieces : List Bytes), pieces.flatten.length = 4 →
        Served request pieces t → Learns request pieces.flatten (ask t)) ∧
      (∀ (t : Transport β) (pieces : List Bytes), pieces.flatten.length = 32 →
        Served extendedRequest pieces t →
          Learns extendedRequest pieces.flatten (askExtended t)) ∧
      ∀ (t t' : Transport β) (first whole : List Bytes),
        first.flatten.length = 4 → whole.flatten.length = 32 →
          Served request first t → Served extendedRequest whole t' →
            first.flatten <+: whole.flatten →
              ∃ legacy extended, (ask t).result = .ok legacy ∧
                (askExtended t').result = .ok extended ∧
                ∀ capability : Capability,
                  legacy.contains capability = extended.contains capability := by
  refine ⟨?field, ?set, ?first, ?whole, ?agree⟩
  case field =>
    intro raw
    exact ⟨toRaw_ofRaw raw, contains_ofRaw_iff raw⟩
  case set =>
    intro set
    exact ⟨ofRaw_toRaw set, fun _ => mem_toList, pairwise_toList set, nodup_toList set⟩
  case first =>
    intro t pieces hlength hserved
    exact ask_learns hlength hserved
  case whole =>
    intro t pieces hlength hserved
    exact askExtended_learns hlength hserved
  case agree =>
    intro t t' first whole hfirst hwhole hserved hserved' hprefix
    exact ⟨ofRaw first.flatten, ofRaw whole.flatten, (ask_learns hfirst hserved).result,
      (askExtended_learns hwhole hserved').result,
      contains_of_prefix (Nat.le_of_eq hfirst.symm) hprefix⟩

/-- A device that is asked twice, after a read was abandoned. Its first answer is half a chunk, in
two pieces; the second one is four chunks, with bits of no known meaning. It lets attempts go by,
and some transfers that move all their bytes end in a timeout. -/
theorem capability_sets_of_hesitant_device :
    let config : ValidConfig := ⟨⟨8, 16, 1000, 2, .reject⟩, by decide⟩
    let first : List Bytes := [[0x02, 0x00], [0x00, 0x88]]
    let whole : List Bytes :=
      [[0x02, 0, 0, 0x88, 0xff, 0, 0, 0], List.replicate 8 0, [0, 0, 0, 0, 0xff, 0, 0, 0],
        List.replicate 8 0]
    let device : Backend.Script :=
      ⟨[.timedOut [], .moved [0x02, 0x00], .moved [0x00, 0x88],
          .moved [0x02, 0, 0, 0x88, 0xff, 0, 0, 0], .timedOut [], .moved (List.replicate 8 0),
          .moved [0, 0, 0, 0, 0xff, 0, 0, 0], .timedOut (List.replicate 8 0)],
        [.timedOut 0, .moved 1, .timedOut 1]⟩
    let t := (startRead 3 (fresh config device)).state
    let t' := (ask t).state
    (Served request first t ∧ Served extendedRequest whole t') ∧
      Learns request [0x02, 0x00, 0x00, 0x88] (ask t) ∧
      Learns extendedRequest whole.flatten (askExtended t') ∧
      (∃ legacy extended, (ask t).result = .ok legacy ∧ (askExtended t').result = .ok extended ∧
        ∀ capability : Capability,
          legacy.contains capability = extended.contains capability) ∧
      (ofRaw whole.flatten).toList = [.getHwVersion, .register, .getExtCaps] := by
  intro config first whole device t t'
  obtain ⟨-, -, hfirst, hwhole, hagree⟩ := capability_sets (β := Backend.Script)
  have hserved : Served request first t := by
    have hsent : (Backend.sendAll config.maxTimeouts request device).state =
        ⟨device.receives, [.timedOut 1]⟩ := by cbv
    refine ⟨by cbv, ?_⟩
    show Backend.Supplies config first (Backend.sendAll config.maxTimeouts request device).state
    rw [hsent]
    exact .pause rfl (.piece rfl (by decide) (by decide)
      (.piece rfl (by decide) (by decide) (.nothing _ _)))
  have hleft : (ask (startRead 3 (fresh config device)).state).state.backend =
      ⟨device.receives.drop 3, [.timedOut 1]⟩ := by cbv
  have hserved' : Served extendedRequest whole t' := by
    have hconfig : (ask (startRead 3 (fresh config device)).state).state.config = config := by
      cbv
    have hsent : (Backend.sendAll config.maxTimeouts extendedRequest
        (⟨device.receives.drop 3, [.timedOut 1]⟩ : Backend.Script)).state =
          ⟨device.receives.drop 3, []⟩ := by cbv
    refine ⟨by rw [hconfig, hleft]; cbv, ?_⟩
    rw [hconfig, hleft, hsent]
    exact .piece rfl (by decide) (by decide) (.pause rfl (.piece rfl (by decide) (by decide)
      (.piece rfl (by decide) (by decide) (.piece rfl (by decide) (by decide) (.nothing _ _)))))
  exact ⟨⟨hserved, hserved'⟩, hfirst t first (by decide) hserved,
    hwhole t' whole (by decide) hserved',
    hagree t t' first whole (by decide) (by decide) hserved hserved' (by decide), by decide⟩

end Capabilities

end ProbeLink
