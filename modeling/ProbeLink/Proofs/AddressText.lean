import ProbeLink.Proofs.Numerals

/-!
# ProbeLink.Proofs.AddressText

**Addresses survive being written** (`IPAddress.ofText?_text`), and what an address looks like
(`IPAddress.shape_of_ofText?`).

A field that holds no separator is cut off again where it was joined (`fields_joinFields`). For IPv6
the gap has to be found first: the fields in front of it are not empty, so the first two neighbouring
colons are its own (`cutDouble?_joinFields_append`). What the gap hides are zero groups
(`take_longestZeroRun`), and those are what a reader puts in its place.
-/

namespace ProbeLink

/-! ### Fields -/

namespace Text

variable {separator : Char} {field : List Char} {others : List (List Char)}

theorem fields_of_not_mem (h : separator ∉ field) : fields separator field = [field] := by
  induction field with
  | nil => rfl
  | cons c rest ih =>
    rw [List.mem_cons, not_or] at h
    rw [fields, if_neg (Ne.symm h.1), ih h.2]

/-- The first separator ends the first field. -/
theorem fields_append (h : separator ∉ field) (rest : List Char) :
    fields separator (field ++ separator :: rest) = field :: fields separator rest := by
  induction field with
  | nil => rw [List.nil_append, fields, if_pos rfl]
  | cons c field ih =>
    rw [List.mem_cons, not_or] at h
    rw [List.cons_append, fields, if_neg (Ne.symm h.1), ih h.2]

theorem joinFields_cons_cons (separator : Char) (field next : List Char)
    (others : List (List Char)) :
    joinFields separator (field :: next :: others) =
      field ++ separator :: joinFields separator (next :: others) := rfl

/-- **Fields without the separator are cut as they were joined.** -/
theorem fields_joinFields (hne : others ≠ []) (h : ∀ field ∈ others, separator ∉ field) :
    fields separator (joinFields separator others) = others := by
  induction others with
  | nil => exact absurd rfl hne
  | cons field others ih =>
    rw [List.forall_mem_cons] at h
    cases others with
    | nil => exact fields_of_not_mem h.1
    | cons next others =>
      rw [joinFields_cons_cons, fields_append h.1, ih (List.cons_ne_nil next others) h.2]

theorem mem_joinFields {c : Char} (h : c ∈ joinFields separator others) :
    c = separator ∨ ∃ field ∈ others, c ∈ field := by
  induction others with
  | nil => cases h
  | cons field others ih =>
    cases others with
    | nil => exact .inr ⟨field, List.mem_singleton_self field, h⟩
    | cons next others =>
      rw [joinFields_cons_cons, List.mem_append, List.mem_cons] at h
      rcases h with h | rfl | h
      · exact .inr ⟨field, List.mem_cons_self, h⟩
      · exact .inl rfl
      · rcases ih h with rfl | ⟨found, hmem, hc⟩
        · exact .inl rfl
        · exact .inr ⟨found, List.mem_cons_of_mem field hmem, hc⟩

theorem joinFields_ne_nil (hne : others ≠ []) (h : ∀ field ∈ others, field ≠ []) :
    joinFields separator others ≠ [] := by
  cases others with
  | nil => exact absurd rfl hne
  | cons field others =>
    cases others with
    | nil => exact h field List.mem_cons_self
    | cons next others => simp [joinFields_cons_cons]

/-- There is one field more than there are separators. -/
theorem length_fields (separator : Char) (text : List Char) :
    (fields separator text).length = text.count separator + 1 := by
  induction text with
  | nil => rfl
  | cons c rest ih =>
    rw [fields]
    split
    · next hc =>
      subst hc
      rw [List.length_cons, ih, List.count_cons_self]
    · next hc =>
      rw [List.count_cons_of_ne hc, ← ih]
      split
      · next hnil => exact absurd hnil (fields_ne_nil separator rest)
      · next hcons =>
        rw [hcons]
        rfl

/-- What holds of the characters of all fields, and of the separator, holds of all characters. -/
theorem forall_mem_of_fields {P : Char → Prop} (hseparator : P separator)
    (h : ∀ field ∈ fields separator text, ∀ c ∈ field, P c) : ∀ c ∈ text, P c := by
  intro c hmem
  rw [← joinFields_fields separator text] at hmem
  rcases mem_joinFields hmem with rfl | ⟨field, hfield, hc⟩
  · exact hseparator
  · exact h field hfield c hc

/-! ### Two neighbouring separators -/

theorem eq_of_cutDouble? (h : cutDouble? separator text = some (front, back)) :
    text = front ++ separator :: separator :: back := by
  induction text generalizing front with
  | nil => cases h
  | cons c rest ih =>
    cases rest with
    | nil => cases h
    | cons d rest =>
      rw [cutDouble?] at h
      split at h
      · next hboth =>
        cases h
        rw [hboth.1, hboth.2]
        rfl
      · obtain ⟨⟨f, b⟩, hcut, heq⟩ := Option.map_eq_some_iff.1 h
        cases heq
        rw [ih hcut]
        rfl

theorem cutDouble?_cons {c : Char} (h : c ≠ separator) (rest : List Char) :
    cutDouble? separator (c :: rest) =
      (cutDouble? separator rest).map fun (front, back) => (c :: front, back) := by
  cases rest with
  | nil => rfl
  | cons d rest => rw [cutDouble?, if_neg fun hboth => h hboth.1]

/-- A single separator is no place to cut at. -/
theorem cutDouble?_single {c : Char} (h : c ≠ separator) (rest : List Char) :
    cutDouble? separator (separator :: c :: rest) =
      (cutDouble? separator (c :: rest)).map fun (front, back) => (separator :: front, back) := by
  rw [cutDouble?, if_neg fun hboth => h hboth.2]

/-- Neither is any place within a field. -/
theorem cutDouble?_field (h : separator ∉ field) (rest : List Char) :
    cutDouble? separator (field ++ rest) =
      (cutDouble? separator rest).map fun (front, back) => (field ++ front, back) := by
  induction field with
  | nil => simp
  | cons c field ih =>
    rw [List.mem_cons, not_or] at h
    rw [List.cons_append, cutDouble?_cons (Ne.symm h.1), ih h.2, Option.map_map]
    rfl

/-- A list of fields none of which is empty or holds the separator. -/
def Proper (separator : Char) (others : List (List Char)) : Prop :=
  ∀ field ∈ others, field ≠ [] ∧ separator ∉ field

theorem proper_cons : Proper separator (field :: others) ↔
    (field ≠ [] ∧ separator ∉ field) ∧ Proper separator others :=
  List.forall_mem_cons

/-- Joined fields go on as what follows them does, unless two separators meet in between. -/
theorem cutDouble?_joinFields (h : Proper separator others) (rest : List Char) :
    cutDouble? separator (joinFields separator others ++ rest) =
      (cutDouble? separator rest).map fun (front, back) =>
        (joinFields separator others ++ front, back) := by
  induction others with
  | nil => simp [joinFields]
  | cons field others ih =>
    rw [proper_cons] at h
    cases others with
    | nil => exact cutDouble?_field h.1.2 rest
    | cons next others =>
      -- The separator between two fields stands alone, since the second one is not empty.
      obtain ⟨c, tail, hnext⟩ := List.exists_cons_of_ne_nil (proper_cons.1 h.2).1.1
      have hc : c ≠ separator := by
        rintro rfl
        exact (proper_cons.1 h.2).1.2 (hnext ▸ List.mem_cons_self)
      have hstart : ∃ more, joinFields separator (next :: others) ++ rest = c :: more := by
        cases others with
        | nil => exact ⟨tail ++ rest, by rw [hnext]; rfl⟩
        | cons third others => exact ⟨_, by rw [joinFields_cons_cons, hnext]; rfl⟩
      obtain ⟨more, hmore⟩ := hstart
      rw [joinFields_cons_cons, List.append_assoc, List.cons_append, cutDouble?_field h.1.2, hmore,
        cutDouble?_single hc, ← hmore, ih h.2, Option.map_map, Option.map_map]
      refine Option.map_congr ?_
      intro parts _
      simp

theorem cutDouble?_joinFields_append (h : Proper separator others) (back : List Char) :
    cutDouble? separator (joinFields separator others ++ separator :: separator :: back) =
      some (joinFields separator others, back) := by
  rw [cutDouble?_joinFields h, cutDouble?, if_pos ⟨rfl, rfl⟩]
  simp

theorem cutDouble?_joinFields_eq_none (h : Proper separator others) :
    cutDouble? separator (joinFields separator others) = none := by
  have hcut := cutDouble?_joinFields h []
  rwa [List.append_nil] at hcut

end Text

/-! ### IPv4 -/

namespace IPv4

/-- An octet takes at most three digits, and only zero begins with one. -/
theorem octet?_repr (octet : UInt8) : octet? (Nat.repr octet.toNat).toList = some octet := by
  have hlt : octet.toNat < 256 := octet.toNat_lt
  have hlength : (Nat.toDigits 10 octet.toNat).length ≤ 3 :=
    (Nat.length_toDigits_le_iff (by decide) (by decide)).2 (by omega)
  have hwritten : ¬(3 < (Nat.repr octet.toNat).toList.length ∨
      ((Nat.repr octet.toNat).toList.head? = some '0' ∧
        1 < (Nat.repr octet.toNat).toList.length)) := by
    rw [Nat.toList_repr]
    rintro (hlong | ⟨hhead, hmore⟩)
    · omega
    · have hpos : 0 < octet.toNat := by
        refine Nat.pos_of_ne_zero ?_
        intro hzero
        rw [hzero] at hmore
        exact absurd hmore (by decide)
      exact Text.head?_toDigits hpos hhead
  rw [octet?, if_neg hwritten, Text.readPlain?_repr (by omega)]
  exact congrArg some UInt8.ofNat_toNat

/-- **An IPv4 address is read back from its text.** -/
theorem ofText?_text (ip : IPv4) : ofText? ip.text = some ip := by
  have hfields : Text.fields '.' ip.text =
      ip.octets.map fun octet => (Nat.repr octet.toNat).toList := by
    refine Text.fields_joinFields (by simp [octets]) ?_
    intro field hmem
    obtain ⟨octet, -, rfl⟩ := List.mem_map.1 hmem
    exact Text.not_mem_repr rfl _
  rw [ofText?, hfields]
  simp only [octets, List.map_cons, List.map_nil, octet?_repr]
  rfl

theorem isDigit_of_octet? {digits : List Char} {octet : UInt8} (h : octet? digits = some octet) :
    ∀ c ∈ digits, c.isDigit = true := by
  rw [octet?] at h
  split at h
  · cases h
  · obtain ⟨n, hn, -⟩ := Option.map_eq_some_iff.1 h
    exact (Text.readPlain?_eq_some_iff.1 hn).1.isDigit

/-- What is read as an IPv4 address has digits and dots only. -/
theorem isDigit_of_ofText? {text : List Char} {ip : IPv4} (h : ofText? text = some ip) :
    ∀ c ∈ text, c = '.' ∨ c.isDigit = true := by
  refine Text.forall_mem_of_fields (.inl rfl) ?_
  rw [ofText?] at h
  split at h
  · next a b d e hfields =>
    obtain ⟨a', ha, h⟩ := Option.bind_eq_some_iff.1 h
    obtain ⟨b', hb, h⟩ := Option.bind_eq_some_iff.1 h
    obtain ⟨d', hd, h⟩ := Option.bind_eq_some_iff.1 h
    obtain ⟨e', he, -⟩ := Option.bind_eq_some_iff.1 h
    have hall : ∀ digits ∈ [a, b, d, e], ∀ c ∈ digits, c.isDigit = true := by
      simp only [List.forall_mem_cons, List.not_mem_nil, false_implies, implies_true, and_true]
      exact ⟨isDigit_of_octet? ha, isDigit_of_octet? hb, isDigit_of_octet? hd,
        isDigit_of_octet? he⟩
    rw [hfields]
    exact fun field hfield c hc => .inr (hall field hfield c hc)
  · cases h

/-- No other character occurs in an IPv4 address. -/
theorem ofText?_eq_none {text : List Char} {c : Char} (hmem : c ∈ text) (hdot : c ≠ '.')
    (hdigit : c.isDigit = false) : ofText? text = none := by
  cases h : ofText? text with
  | none => rfl
  | some ip =>
    rcases isDigit_of_ofText? h c hmem with rfl | hc
    · exact absurd rfl hdot
    · rw [hdigit] at hc
      cases hc

end IPv4

/-! ### IPv6 -/

namespace IPv6

/-! #### The gap -/

theorem leadingZeros_le (groups : List UInt16) : leadingZeros groups ≤ groups.length := by
  induction groups with
  | nil => exact Nat.le_refl 0
  | cons group rest ih =>
    rw [leadingZeros, List.length_cons]
    split <;> omega

/-- The zeros that a list starts with are zeros. -/
theorem take_leadingZeros {groups : List UInt16} {length : Nat}
    (h : length ≤ leadingZeros groups) : groups.take length = List.replicate length 0 := by
  induction groups generalizing length with
  | nil =>
    rw [Nat.le_zero.1 h]
    rfl
  | cons group rest ih =>
    cases length with
    | zero => rfl
    | succ length =>
      rw [leadingZeros] at h
      split at h
      · next hzero =>
        rw [List.take_succ_cons, List.replicate_succ, hzero, ih (Nat.le_of_succ_le_succ h)]
      · exact absurd h (Nat.not_succ_le_zero length)

/-- A run is one of zeros: from its position on, the list starts with as many. -/
def IsRun (groups : List UInt16) (run : Nat × Nat) : Prop :=
  run.2 ≤ leadingZeros (groups.drop run.1)

/-- The search compares runs only, whatever remains of the list. -/
theorem isRun_go {groups rest : List UInt16} {start : Nat} {best : Nat × Nat}
    (hrest : rest = groups.drop start) (hbest : IsRun groups best) :
    IsRun groups (longestZeroRun.go start best rest) := by
  induction rest generalizing start best with
  | nil => exact hbest
  | cons group rest ih =>
    rw [longestZeroRun.go]
    refine ih ?_ ?_
    · have htail : rest = (groups.drop start).tail := congrArg List.tail hrest
      rwa [List.tail_drop] at htail
    · split
      · exact Nat.le_of_eq (congrArg leadingZeros hrest)
      · exact hbest

theorem isRun_longestZeroRun (groups : List UInt16) : IsRun groups (longestZeroRun groups) :=
  isRun_go List.drop_zero.symm (Nat.zero_le _)

/-- **What the gap hides are zeros**: the groups around it, with as many zeros in between, are all of
them. -/
theorem IsRun.split {groups : List UInt16} {start length : Nat} (h : IsRun groups (start, length)) :
    groups.take start ++ List.replicate length 0 ++ groups.drop (start + length) = groups := by
  rw [← take_leadingZeros h, List.append_assoc, ← List.drop_drop, List.take_append_drop,
    List.take_append_drop]

/-- The gap lies within the list. -/
theorem IsRun.le {groups : List UInt16} {start length : Nat} (h : IsRun groups (start, length))
    (hpos : 0 < length) : start + length ≤ groups.length := by
  have hle := Nat.le_trans h (leadingZeros_le _)
  rw [List.length_drop] at hle
  omega

/-! #### Groups -/

theorem proper_hex (groups : List UInt16) :
    Text.Proper ':' (groups.map fun group => Text.hex group.toNat) := by
  intro field hmem
  obtain ⟨group, -, rfl⟩ := List.mem_map.1 hmem
  exact ⟨Text.hex_ne_nil _, Text.not_mem_hex rfl _⟩

theorem fields_groupsText {groups : List UInt16} (hne : groups ≠ []) :
    Text.fields ':' (groupsText groups) = groups.map fun group => Text.hex group.toNat :=
  Text.fields_joinFields (by simpa using hne) fun field hmem => (proper_hex groups field hmem).2

theorem isEmpty_groupsText {groups : List UInt16} (hne : groups ≠ []) :
    (groupsText groups).isEmpty = false := by
  rw [List.isEmpty_eq_false_iff]
  exact Text.joinFields_ne_nil (by simpa using hne) fun field hmem => (proper_hex groups field hmem).1

theorem mapM_group?_hex (groups : List UInt16) :
    (groups.map fun group => Text.hex group.toNat).mapM group? = some groups := by
  induction groups with
  | nil => rfl
  | cons group rest ih => simp [group?_hex, ih]

theorem groupsOfFields?_hex (groups : List UInt16) :
    groupsOfFields? (groups.map fun group => Text.hex group.toNat) = some groups := by
  induction groups with
  | nil => rfl
  | cons group rest ih =>
    cases rest with
    | nil => simp [groupsOfFields?, group?_hex]
    | cons next rest =>
      rw [List.map_cons] at ih ⊢
      simp [groupsOfFields?, group?_hex, ih]

/-- The groups on either side of the gap, of which there may be none. -/
theorem groupsOfText?_groupsText (groups : List UInt16) :
    groupsOfText? (groupsText groups) = some groups := by
  by_cases hne : groups = []
  · rw [hne]
    rfl
  · rw [groupsOfText?, isEmpty_groupsText hne, fields_groupsText hne]
    exact groupsOfFields?_hex groups

theorem ofGroups_groups (ip : IPv6) : ofGroups ip.groups = ip := by
  cases ip with
  | mk groups length_groups =>
    simp [ofGroups, length_groups]

/-! #### An address that stands for an IPv4 address -/

/-- Two octets make up a group, and are taken from it. -/
theorem ofNat_octets (group : UInt16) :
    UInt16.ofNat ((UInt8.ofNat (group.toNat / 256)).toNat * 256 + (UInt8.ofNat group.toNat).toNat) =
      group := by
  have hlt : group.toNat < 65536 := group.toNat_lt
  apply UInt16.toNat_inj.1
  simp only [UInt16.toNat_ofNat', UInt8.toNat_ofNat', Nat.reducePow]
  omega

theorem groups_of_mapped {ip : IPv6} {mapped : IPv4} (h : ip.toIPv4Mapped? = some mapped) :
    ip.groups = [0, 0, 0, 0, 0, 0xffff] ++ groupsOfIPv4 mapped := by
  rw [toIPv4Mapped?] at h
  split at h
  · next high low hgroups =>
    cases h
    rw [hgroups, groupsOfIPv4, ofNat_octets, ofNat_octets]
    rfl
  · cases h

/-- An IPv4 address is no group: it has dots. -/
theorem group?_text (ip : IPv4) : group? ip.text = none := by
  have hdot : '.' ∈ ip.text := by simp [IPv4.text, IPv4.octets, Text.joinFields_cons_cons]
  rw [group?]
  split
  · rfl
  · cases h : hexValue? 0 ip.text with
    | none => rfl
    | some n => exact absurd rfl (hexDigit?_of_hexValue? h '.' hdot)

/-! #### The text of an address -/

/-- **The ways an address is written**: as an IPv4 address behind `::ffff:`, with a gap for a run of
zeros, or with all of its groups. -/
theorem text_cases (ip : IPv6) :
    (∃ mapped, ip.toIPv4Mapped? = some mapped ∧
        ip.text = ':' :: ':' :: (Text.hex (0xffff : UInt16).toNat ++ ':' :: mapped.text)) ∨
      (∃ start length, IsRun ip.groups (start, length) ∧ 1 < length ∧
        ip.text = groupsText (ip.groups.take start) ++
          ':' :: ':' :: groupsText (ip.groups.drop (start + length))) ∨
      ip.text = groupsText ip.groups := by
  cases h : ip.toIPv4Mapped? with
  | some mapped =>
    refine .inl ⟨mapped, rfl, ?_⟩
    have hhex : Text.hex (0xffff : UInt16).toNat = ['f', 'f', 'f', 'f'] := by
      simp [Text.hex, Text.hexDigit]
    rw [text, h, hhex]
    rfl
  | none =>
    rcases hrun : longestZeroRun ip.groups with ⟨start, length⟩
    rcases Nat.lt_or_ge 1 length with hlong | hshort
    · refine .inr (.inl ⟨start, length, hrun ▸ isRun_longestZeroRun ip.groups, hlong, ?_⟩)
      rw [text, h]
      simp [hrun, hlong]
    · refine .inr (.inr ?_)
      rw [text, h]
      simp [hrun, Nat.not_lt_of_le hshort]

/-- The groups in front of the gap. -/
theorem front_groupsText (groups : List UInt16) :
    (if (groupsText groups).isEmpty then some []
      else (Text.fields ':' (groupsText groups)).mapM group?) = some groups := by
  by_cases hne : groups = []
  · rw [hne]
    rfl
  · rw [isEmpty_groupsText hne, fields_groupsText hne]
    exact mapM_group?_hex groups

/-- A text with a gap, given what stands on its two sides. -/
theorem ofText?_of_gap {text front back : List Char} {before after : List UInt16}
    (hcut : Text.cutDouble? ':' text = some (front, back))
    (hfront : (if front.isEmpty then some [] else (Text.fields ':' front).mapM group?) = some before)
    (hback : groupsOfText? back = some after) (hshort : before.length + after.length < 8) :
    ofText? text = some (ofGroups
      (before ++ List.replicate (8 - (before.length + after.length)) 0 ++ after)) := by
  rw [ofText?, hcut]
  dsimp only
  -- The reader decides about the front before it goes on, so what follows stands in both branches.
  cases hempty : front.isEmpty with
  | true =>
    rw [hempty] at hfront
    obtain rfl : [] = before := Option.some.inj hfront
    simp only [if_true, Option.bind_eq_bind, Option.bind_some, hback, if_pos hshort]
  | false =>
    rw [hempty] at hfront
    simp only [Bool.false_eq_true, if_false] at hfront ⊢
    simp only [Option.bind_eq_bind, hfront, Option.bind_some, hback, if_pos hshort]

theorem ofText?_of_mapped {ip : IPv6} {mapped : IPv4} (h : ip.toIPv4Mapped? = some mapped) :
    ofText? (':' :: ':' :: (Text.hex (0xffff : UInt16).toNat ++ ':' :: mapped.text)) = some ip := by
  have hback : groupsOfText? (Text.hex (0xffff : UInt16).toNat ++ ':' :: mapped.text) =
      some (0xffff :: groupsOfIPv4 mapped) := by
    have hcolon : ':' ∉ mapped.text := by
      intro hmem
      rcases IPv4.isDigit_of_ofText? mapped.ofText?_text _ hmem with hdot | hdigit
      · exact absurd hdot (by decide)
      · exact absurd hdigit (by decide)
    have hfields := Text.fields_append (Text.not_mem_hex (c := ':') rfl (0xffff : UInt16).toNat)
      mapped.text
    rw [Text.fields_of_not_mem hcolon] at hfields
    rw [groupsOfText?, if_neg (by simp), hfields]
    simp only [groupsOfFields?, group?_hex, group?_text, IPv4.ofText?_text]
    rfl
  have hcut : Text.cutDouble? ':'
      (':' :: ':' :: (Text.hex (0xffff : UInt16).toNat ++ ':' :: mapped.text)) =
        some ([], Text.hex (0xffff : UInt16).toNat ++ ':' :: mapped.text) := by
    rw [Text.cutDouble?, if_pos ⟨rfl, rfl⟩]
  have hread := ofText?_of_gap hcut rfl hback (by simp [groupsOfIPv4])
  have hgroups : [] ++ List.replicate (8 - (([] : List UInt16).length +
      (0xffff :: groupsOfIPv4 mapped).length)) 0 ++ (0xffff :: groupsOfIPv4 mapped) = ip.groups := by
    rw [groups_of_mapped h]
    rfl
  rw [hread, hgroups, ofGroups_groups]

theorem ofText?_of_run {ip : IPv6} {start length : Nat} (hzeros : IsRun ip.groups (start, length))
    (hlong : 1 < length) :
    ofText? (groupsText (ip.groups.take start) ++
      ':' :: ':' :: groupsText (ip.groups.drop (start + length))) = some ip := by
  have hwithin : start + length ≤ 8 := by
    have hle := hzeros.le (Nat.lt_of_succ_lt hlong)
    rwa [ip.length_groups] at hle
  have hbefore : (ip.groups.take start).length = start := by
    rw [List.length_take, ip.length_groups]
    omega
  have hafter : (ip.groups.drop (start + length)).length = 8 - (start + length) := by
    rw [List.length_drop, ip.length_groups]
  have hcut : Text.cutDouble? ':' (groupsText (ip.groups.take start) ++
      ':' :: ':' :: groupsText (ip.groups.drop (start + length))) =
        some (groupsText (ip.groups.take start), groupsText (ip.groups.drop (start + length))) :=
    Text.cutDouble?_joinFields_append (proper_hex _) _
  have hread := ofText?_of_gap hcut (front_groupsText _) (groupsOfText?_groupsText _)
    (by rw [hbefore, hafter]; omega)
  have hhidden : 8 - ((ip.groups.take start).length + (ip.groups.drop (start + length)).length) =
      length := by
    rw [hbefore, hafter]
    omega
  rw [hread, hhidden, hzeros.split, ofGroups_groups]

theorem ofText?_groupsText (ip : IPv6) : ofText? (groupsText ip.groups) = some ip := by
  have hne : ip.groups ≠ [] := List.ne_nil_of_length_pos (by rw [ip.length_groups]; decide)
  have hcut : Text.cutDouble? ':' (groupsText ip.groups) = none :=
    Text.cutDouble?_joinFields_eq_none (proper_hex ip.groups)
  rw [ofText?, hcut]
  simp only [fields_groupsText hne, groupsOfFields?_hex]
  exact dif_pos ip.length_groups

/-- **An IPv6 address is read back from its text.** -/
theorem ofText?_text (ip : IPv6) : ofText? ip.text = some ip := by
  rcases ip.text_cases with ⟨mapped, h, htext⟩ | ⟨start, length, hzeros, hlong, htext⟩ | htext
  · rw [htext, ofText?_of_mapped h]
  · rw [htext, ofText?_of_run hzeros hlong]
  · rw [htext, ofText?_groupsText]

/-! #### Its characters -/

/-- The characters that the text of an IPv6 address may have. -/
def IsTextChar (c : Char) : Prop := c = ':' ∨ c = '.' ∨ Text.hexDigit? c ≠ none

theorem isTextChar_of_group? {field : List Char} {group : UInt16} (h : group? field = some group) :
    ∀ c ∈ field, IsTextChar c := by
  rw [group?] at h
  split at h
  · cases h
  · obtain ⟨n, hn, -⟩ := Option.map_eq_some_iff.1 h
    exact fun c hc => .inr (.inr (hexDigit?_of_hexValue? hn c hc))

theorem isTextChar_of_ipv4 {text : List Char} {ip : IPv4} (h : IPv4.ofText? text = some ip) :
    ∀ c ∈ text, IsTextChar c := by
  intro c hc
  rcases IPv4.isDigit_of_ofText? h c hc with hdot | hdigit
  · exact .inr (.inl hdot)
  · exact .inr (.inr (Text.hexDigit?_of_isDigit hdigit))

/-- What is read as groups, of which a field gives one, or the last one two. -/
theorem shape_of_groupsOfFields? {fields : List (List Char)} {groups : List UInt16}
    (h : groupsOfFields? fields = some groups) :
    (∀ field ∈ fields, ∀ c ∈ field, IsTextChar c) ∧ groups.length ≤ fields.length + 1 := by
  induction fields generalizing groups with
  | nil =>
    cases h
    exact ⟨nofun, Nat.zero_le 1⟩
  | cons field others ih =>
    cases others with
    | nil =>
      rw [groupsOfFields?] at h
      rw [List.forall_mem_singleton]
      split at h
      · next group hgroup =>
        cases h
        exact ⟨isTextChar_of_group? hgroup, by simp⟩
      · obtain ⟨ip, hip, rfl⟩ := Option.map_eq_some_iff.1 h
        exact ⟨isTextChar_of_ipv4 hip, by simp [groupsOfIPv4]⟩
    | cons next others =>
      obtain ⟨group, hgroup, h⟩ := Option.bind_eq_some_iff.1 h
      obtain ⟨rest, hrest, h⟩ := Option.bind_eq_some_iff.1 h
      cases h
      obtain ⟨hchars, hlength⟩ := ih hrest
      rw [List.forall_mem_cons]
      exact ⟨⟨isTextChar_of_group? hgroup, hchars⟩, Nat.succ_le_succ hlength⟩

theorem isTextChar_of_mapM {fields : List (List Char)} {groups : List UInt16}
    (h : fields.mapM group? = some groups) : ∀ field ∈ fields, ∀ c ∈ field, IsTextChar c := by
  induction fields generalizing groups with
  | nil => exact nofun
  | cons field others ih =>
    rw [List.mapM_cons] at h
    obtain ⟨group, hgroup, h⟩ := Option.bind_eq_some_iff.1 h
    obtain ⟨rest, hrest, -⟩ := Option.bind_eq_some_iff.1 h
    rw [List.forall_mem_cons]
    exact ⟨isTextChar_of_group? hgroup, ih hrest⟩

/-- **What is read as an IPv6 address** has two colons or more, and no characters but those. -/
theorem shape_of_ofText? {text : List Char} {ip : IPv6} (h : ofText? text = some ip) :
    (∀ c ∈ text, IsTextChar c) ∧ 2 ≤ text.count ':' := by
  have hcolon : IsTextChar ':' := .inl rfl
  rw [ofText?] at h
  split at h
  · -- There is no gap: eight groups take seven fields at least.
    obtain ⟨groups, hgroups, h⟩ := Option.bind_eq_some_iff.1 h
    split at h
    · next height =>
      obtain ⟨hchars, hlength⟩ := shape_of_groupsOfFields? hgroups
      rw [height, Text.length_fields] at hlength
      exact ⟨Text.forall_mem_of_fields hcolon hchars, by omega⟩
    · cases h
  · next front back hcut =>
    have hparts : (∀ c ∈ front, IsTextChar c) ∧ ∃ after, groupsOfText? back = some after := by
      dsimp only at h
      split at h
      · next hempty =>
        obtain ⟨_, _, h⟩ := Option.bind_eq_some_iff.1 h
        obtain ⟨after, hafter, -⟩ := Option.bind_eq_some_iff.1 h
        rw [List.isEmpty_iff.1 hempty]
        exact ⟨nofun, after, hafter⟩
      · obtain ⟨before, hbefore, h⟩ := Option.bind_eq_some_iff.1 h
        obtain ⟨after, hafter, -⟩ := Option.bind_eq_some_iff.1 h
        exact ⟨Text.forall_mem_of_fields hcolon (isTextChar_of_mapM hbefore), after, hafter⟩
    obtain ⟨hfront, after, hafter⟩ := hparts
    have hback : ∀ c ∈ back, IsTextChar c := by
      rw [groupsOfText?] at hafter
      split at hafter
      · next hempty =>
        rw [List.isEmpty_iff.1 hempty]
        exact nofun
      · exact Text.forall_mem_of_fields hcolon (shape_of_groupsOfFields? hafter).1
    rw [Text.eq_of_cutDouble? hcut]
    constructor
    · intro c hmem
      simp only [List.mem_append, List.mem_cons] at hmem
      rcases hmem with hc | rfl | rfl | hc
      · exact hfront c hc
      · exact hcolon
      · exact hcolon
      · exact hback c hc
    · simp only [List.count_append, List.count_cons_self]
      omega
end IPv6

/-! ### Either version -/

namespace IPAddress

/-- **An address is read back from its text.** -/
theorem ofText?_text (ip : IPAddress) : ofText? ip.text = some ip := by
  cases ip with
  | v4 ip =>
    rw [text, ofText?, IPv4.ofText?_text]
  | v6 ip =>
    have hcolon : ':' ∈ ip.text := by
      have hcount := (IPv6.shape_of_ofText? ip.ofText?_text).2
      exact List.count_pos_iff.1 (by omega)
    have hv4 : IPv4.ofText? ip.text = none := IPv4.ofText?_eq_none hcolon (by decide) rfl
    rw [text, ofText?, hv4, IPv6.ofText?_text]
    rfl

/-- The look of an address: its colons tell the version, and it has no brackets. -/
structure Shape (text : List Char) : Prop where
  ne_nil : text ≠ []
  colons : ':' ∉ text ∨ 2 ≤ text.count ':'
  no_bracket : '[' ∉ text ∧ ']' ∉ text

theorem no_bracket_of_isTextChar {text : List Char} (h : ∀ c ∈ text, IPv6.IsTextChar c) :
    '[' ∉ text ∧ ']' ∉ text :=
  ⟨fun hmem => by simpa [IPv6.IsTextChar, Text.hexDigit?] using h '[' hmem,
    fun hmem => by simpa [IPv6.IsTextChar, Text.hexDigit?] using h ']' hmem⟩

/-- **What is read as an address looks like one.** -/
theorem shape_of_ofText? {text : List Char} {ip : IPAddress} (h : ofText? text = some ip) :
    Shape text := by
  have hfull : text ≠ [] := by
    rintro rfl
    cases h
  rw [ofText?] at h
  split at h
  · next v4 hv4 =>
    refine ⟨hfull, .inl fun hcolon => ?_, no_bracket_of_isTextChar (IPv6.isTextChar_of_ipv4 hv4)⟩
    rw [IPv4.ofText?_eq_none hcolon (by decide) rfl] at hv4
    cases hv4
  · obtain ⟨v6, hv6, -⟩ := Option.map_eq_some_iff.1 h
    obtain ⟨hchars, hcolons⟩ := IPv6.shape_of_ofText? hv6
    exact ⟨hfull, .inr hcolons, no_bracket_of_isTextChar hchars⟩

theorem shape_text (ip : IPAddress) : Shape ip.text := shape_of_ofText? (ofText?_text ip)

end IPAddress

end ProbeLink
