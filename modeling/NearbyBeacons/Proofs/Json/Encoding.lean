import Mathlib.Data.List.Basic
import NearbyBeacons.Proofs.Json.Text
import NearbyBeacons.Proofs.Json.Walk
import NearbyBeacons.Proofs.Time.Timestamp
/-!
# Decoders of what is written

A decoder recovers a value from the tree of its JSON form (`Recovers`). Records do if their fields
do: the members of an object in the order of the fields make the record (`Makes.recovers`).
-/

namespace NearbyBeacons.Json

variable {α β : Type}

/-- `f` takes the tree of `j` to `a`. -/
def Recovers (f : Decoder α) (j : Json) (a : α) : Prop := f j.draft = .ok a

/-! ### Values without parts -/

theorem recovers_string (s : String) : Recovers Decoder.string (.string s) s := by
  rw [Recovers, draft]
  rfl

theorem recovers_bool (b : Bool) : Recovers Decoder.bool (.bool b) b := by
  rw [Recovers, draft]
  rfl

/-- A written whole number of at most one word is whole. -/
theorem int?_wholeNumeral {n : Int} (hlow : -9223372036854775808 ≤ n)
    (hhigh : n ≤ 18446744073709551615) : (wholeNumeral n).int? = some n := by
  simp only [wholeNumeral, Numeral.int?, Decimal.value_digits, List.isEmpty_nil, Bool.not_true,
    Option.isSome_none, Bool.or_false, Bool.false_eq_true, if_false, decide_eq_true_eq,
    Decimal.signedSize, Decimal.wordSize]
  split
  · rw [if_neg (by omega)]
    exact congrArg some (by omega)
  · rw [if_neg (by omega)]
    exact congrArg some (by omega)

/-- A whole number in range comes back, for ranges within the words with and without a sign. -/
theorem recovers_int {low high n : Int} (hlow : -9223372036854775808 ≤ low)
    (hhigh : high ≤ 18446744073709551615) (hn : low ≤ n ∧ n ≤ high) :
    Recovers (Decoder.int low high) (.integer n) n := by
  have hwhole : (wholeNumeral n).int? = some n :=
    int?_wholeNumeral (hlow.trans hn.1) (hn.2.trans hhigh)
  have hsmall : (wholeNumeral n).isTooLarge = false := by
    rw [Numeral.isTooLarge, hwhole]
    rfl
  rw [Recovers, draft, Decoder.int, hsmall, if_neg Bool.false_ne_true, hwhole]
  exact if_pos hn

/-- A decoded whole number is in the range that was asked for. -/
theorem range_of_int {low high n : Int} {d : Draft} (h : Decoder.int low high d = .ok n) :
    low ≤ n ∧ n ≤ high := by
  unfold Decoder.int at h
  split at h
  · split at h
    · cases h
    · split at h
      · split at h
        · next hrange =>
          obtain rfl := Except.ok.inj h
          exact hrange
        · cases h
      · cases h
  · cases h

theorem recovers_int16 (n : Int16) : Recovers Decoder.int16 (.integer n.toInt) n := by
  have hn : -32768 ≤ n.toInt ∧ n.toInt ≤ 32767 := ⟨n.le_toInt, n.toInt_le⟩
  have hint := recovers_int (by decide) (by decide) hn
  rw [Recovers] at hint ⊢
  rw [Decoder.int16, hint]
  exact congrArg Except.ok (Int16.ofInt_toInt n)

theorem recovers_uint16 (n : UInt16) : Recovers Decoder.uint16 (.integer n.toNat) n := by
  have hlt : n.toNat < 65536 := n.toNat_lt
  have hint : Recovers (Decoder.int 0 65535) (.integer n.toNat) n.toNat :=
    recovers_int (by decide) (by decide) (by omega)
  rw [Recovers] at hint ⊢
  rw [Decoder.uint16, hint]
  exact congrArg Except.ok (UInt16.ofNat_toNat)

theorem recovers_uint64 (n : UInt64) : Recovers Decoder.uint64 (.integer n.toNat) n := by
  have hlt : n.toNat < 18446744073709551616 := n.toNat_lt
  have hint : Recovers (Decoder.int 0 18446744073709551615) (.integer n.toNat) n.toNat :=
    recovers_int (by decide) (by decide) (by omega)
  rw [Recovers] at hint ⊢
  rw [Decoder.uint64, hint]
  exact congrArg Except.ok (UInt64.ofNat_toNat)

theorem recovers_count {n : Nat} (h : n < Decimal.wordSize) :
    Recovers Decoder.count (.integer n) n := by
  rw [Decimal.wordSize] at h
  have hint : Recovers (Decoder.int 0 18446744073709551615) (.integer n) n :=
    recovers_int (by decide) (by decide) (by omega)
  rw [Recovers] at hint ⊢
  rw [Decoder.count, hint]
  rfl

/-- A value that is parsed from a text comes back from a text that parses to it. -/
theorem recovers_parsed {f : List Char → Option α} {text : List Char} {a : α}
    (h : f text = some a) : Recovers (Decoder.parsed f) (.string (String.ofList text)) a := by
  rw [Recovers, draft, Decoder.parsed, Decoder.string]
  simp only [String.toList_ofList, h]

/-! ### Values with parts -/

/-- An option comes back if no value is written as `null`, which stands for no value. -/
theorem recovers_optional {f : Decoder α} {encode : α → Json}
    (h : ∀ a, Recovers f (encode a) a) (hnull : ∀ a, (encode a).draft ≠ .null) (o : Option α) :
    Recovers (Decoder.optional f) (.optional encode o) o := by
  cases o with
  | none =>
    show Decoder.optional f (draft .null) = .ok none
    rw [draft]
    rfl
  | some a =>
    show Decoder.optional f (encode a).draft = .ok (some a)
    rw [Decoder.optional, show f (encode a).draft = .ok a from h a]
    · rfl
    · exact hnull a

theorem recovers_optionalString (o : Option String) :
    Recovers (Decoder.optional Decoder.string) (.optional .string o) o := by
  apply recovers_optional recovers_string
  intro s
  rw [draft]
  nofun

/-- A list comes back item by item. -/
theorem recovers_list {f : Decoder α} {encode : α → Json} (h : ∀ a, Recovers f (encode a) a)
    (as : List α) : Recovers (Decoder.list f) (.array (as.map encode)) as := by
  rw [Recovers, draft, Decoder.list]
  induction as with
  | nil =>
    rw [List.map_nil, itemDrafts]
    rfl
  | cons a as ih =>
    rw [List.map_cons, itemDrafts, Decoder.items, ih, show f (encode a).draft = .ok a from h a]
    rfl

/-! ### Records -/

namespace Record

/-- The record `r` makes `a` of the trees of `js`, one for each field. -/
structure Makes (r : Record α) (js : List Json) (a : α) : Prop where
  length : js.length = r.fields.length
  build : r.build false (js.map fun j => some j.draft) = .ok a

/-- A record without fields is made of nothing. -/
theorem makes_pure (a : α) : Makes (Record.pure a) [] a := ⟨rfl, rfl⟩

/-- For one more field there is one more tree, behind the others. -/
theorem Makes.field {r : Record (α → β)} {js : List Json} {make : α → β} (h : Makes r js make)
    (name : String) {f : Decoder α} {j : Json} {a : α} (hj : Recovers f j a)
    (absence : Absence α) : Makes (r.field name f absence) (js ++ [j]) (make a) where
  length := by
    rw [Record.field, List.length_append, List.length_append, h.length]
    rfl
  build := by
    rw [List.map_append, List.map_singleton]
    exact (build_field_iff (by rw [List.length_map, h.length])).mpr ⟨make, a, h.build, hj, rfl⟩

section Combinators

variable {js : List Json} {f : Decoder α} {j : Json} {a : α}

theorem Makes.required {r : Record (α → β)} {make : α → β} (h : Makes r js make) (name : String)
    (hj : Recovers f j a) : Makes (r.required name f) (js ++ [j]) (make a) :=
  h.field name hj .refused

theorem Makes.defaultField {r : Record (α → β)} {make : α → β} (h : Makes r js make)
    (name : String) (hj : Recovers f j a) (default : α) :
    Makes (r.defaultField name f default) (js ++ [j]) (make a) :=
  h.field name hj (.anywhere default)

variable {r : Record (Option α → β)} {make : Option α → β} {o : Option α}

theorem Makes.optionalField (h : Makes r js make) (name : String)
    (hj : Recovers (Decoder.optional f) j o) :
    Makes (r.optionalField name f) (js ++ [j]) (make o) :=
  h.field name hj (.inObject none)

theorem Makes.trailingField (h : Makes r js make) (name : String)
    (hj : Recovers (Decoder.optional f) j o) :
    Makes (r.trailingField name f) (js ++ [j]) (make o) :=
  h.field name hj (.anywhere none)

end Combinators

/-- Members that are named as the fields, in order, are those of a record. -/
theorem HasMembers.of_names {names : List String} (hnodup : names.Nodup)
    {ms : List (Option String × Draft)} (hms : ms.map Prod.fst = names.map some) :
    HasMembers names ms where
  named := by simp [hms]
  whole := by
    intro m hm hother
    have hname : m.1 ∈ names.map some := hms ▸ List.mem_map_of_mem hm
    obtain ⟨name, hname, heq⟩ := List.mem_map.mp hname
    exact absurd heq.symm (hother name hname)
  once := by
    intro name _
    rw [hms]
    exact List.nodup_iff_count_le_one.mp (hnodup.map fun _ _ => Option.some.inj) (some name)

/-- The object of all fields in order makes the record. -/
theorem Makes.recovers {r : Record α} (hr : r.IsLawful) {members : List (String × Json)} {a : α}
    (h : Makes r (members.map Prod.snd) a) (hnames : members.map Prod.fst = r.names) :
    Recovers r.decode (.object members) a := by
  have hdrafts : ∀ members : List (String × Json),
      memberDrafts members = members.map fun m => (some m.1, m.2.draft) := by
    intro members
    induction members with
    | nil => rw [memberDrafts, List.map_nil]
    | cons m members ih => rw [memberDrafts, ih, List.map_cons]
  have hms : HasMembers r.names (memberDrafts members) := by
    apply HasMembers.of_names hr.nodup
    rw [hdrafts, ← hnames, List.map_map, List.map_map]
    rfl
  rw [Recovers, draft, decode_object_iff hr]
  refine ⟨hms, ?_⟩
  have hslots : (r.names.map fun name => (memberDrafts members).lookup (some name)) =
      (members.map Prod.snd).map fun j => some j.draft := by
    rw [← hnames, List.map_map, List.map_map]
    apply List.map_congr_left
    intro m hm
    apply hms.lookup_of_mem (hnames ▸ List.mem_map_of_mem hm)
    rw [hdrafts]
    exact List.mem_map_of_mem (f := fun m : String × Json => (some m.1, m.2.draft)) hm
  rw [hslots]
  exact h.build

/-! ### What records are made of -/

/-- Whatever `r` makes has the property `P`. -/
def Yields (r : Record α) (P : α → Prop) : Prop :=
  ∀ inArray slots a, r.build inArray slots = .ok a → P a

/-- What is decoded as a record was made by it. -/
theorem Yields.of_decode {r : Record α} {P : α → Prop} (hr : r.Yields P) {d : Draft} {a : α}
    (h : r.decode d = .ok a) : P a := by
  unfold decode at h
  split at h
  · obtain ⟨slots, -, hbuild⟩ := bind_eq_ok_iff.mp h
    exact hr false slots a hbuild
  · obtain ⟨slots, -, hbuild⟩ := bind_eq_ok_iff.mp h
    exact hr true slots a hbuild
  · cases h

theorem yields_pure {P : α → Prop} {a : α} (h : P a) : (Record.pure a).Yields P := by
  intro inArray slots b hb
  cases hb
  exact h

/-- A field has what every value of it has, wherever the value comes from. -/
theorem yields_field {r : Record (α → β)} {name : String} {f : Decoder α} {absence : Absence α}
    {Q : α → Prop} {P : β → Prop}
    (hvalue : ∀ inArray slot a, slotValue inArray f absence slot = .ok a → Q a)
    (hr : r.Yields fun make => ∀ a, Q a → P (make a)) : (r.field name f absence).Yields P := by
  intro inArray slots b hb
  obtain ⟨make, hmake, hfield⟩ := bind_eq_ok_iff.mp hb
  have hslot : ∃ slot a, slotValue inArray f absence slot = .ok a ∧ make a = b := by
    split at hfield
    · next d _ => exact ⟨some d, map_eq_ok_iff.mp hfield⟩
    · exact ⟨none, map_eq_ok_iff.mp hfield⟩
  obtain ⟨slot, a, ha, rfl⟩ := hslot
  exact hr inArray _ make hmake a (hvalue inArray slot a ha)

/-- Nothing is asked of a field. -/
theorem yields_anyField {r : Record (α → β)} {name : String} {f : Decoder α} {absence : Absence α}
    {P : β → Prop} (hr : r.Yields fun make => ∀ a, P (make a)) :
    (r.field name f absence).Yields P :=
  yields_field (Q := fun _ => True) (fun _ _ _ _ => trivial)
    fun inArray slots make hmake a _ => hr inArray slots make hmake a

/-- A field that has to be there has what its decoder gives. -/
theorem yields_required {r : Record (α → β)} {name : String} {f : Decoder α} {Q : α → Prop}
    {P : β → Prop} (hf : ∀ d a, f d = .ok a → Q a)
    (hr : r.Yields fun make => ∀ a, Q a → P (make a)) : (r.required name f).Yields P := by
  refine yields_field ?_ hr
  intro inArray slot a ha
  cases slot with
  | none => cases ha
  | some d => exact hf d a ha

end Record

/-! ### Texts -/

/-- From the text of a value in range that value is decoded, and so it is from the text of every
value that was decoded. -/
structure RoundTrips (encode : α → Json) (f : Decoder α) (inRange : α → Prop) : Prop where
  decodes : ∀ a, inRange a → f.decodeText (encode a).text = .ok a
  again : ∀ cs a, f.decodeText cs = .ok a → f.decodeText (encode a).text = .ok a

/-- It is enough that values come back from their trees, and that whatever is decoded is in
range. -/
theorem roundTrips_of_recovers {encode : α → Json} {f : Decoder α} {inRange : α → Prop}
    (h : ∀ a, inRange a → Recovers f (encode a) a) (hrange : ∀ d a, f d = .ok a → inRange a) :
    RoundTrips encode f inRange where
  decodes := fun a ha => (decodeText_text f (encode a)).trans (h a ha)
  again := by
    intro cs a hdecode
    obtain ⟨d, -, hd⟩ := decodeText_eq_ok_iff.mp hdecode
    exact (decodeText_text f (encode a)).trans (h a (hrange d a hd))

theorem roundTrips_of_recovers_all {encode : α → Json} {f : Decoder α}
    (h : ∀ a, Recovers f (encode a) a) : RoundTrips encode f fun _ => True :=
  roundTrips_of_recovers (fun a _ => h a) fun _ _ _ => trivial

end NearbyBeacons.Json
