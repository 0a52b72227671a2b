import Mathlib.Data.List.Basic
import Mathlib.Data.List.Nodup
import NearbyBeacons.Json.Decoder
/-!
# Records from objects and arrays

A lawful record is decoded from an object exactly if no name has two values in it and the values
that its names have make a record (`decode_object_iff`). Other members matter as little as the
order of the members.
-/

namespace NearbyBeacons.Json.Record

variable {α β : Type}

/-- The names of the fields. -/
def names (r : Record α) : List String := r.fields.map Field.name

/-! ### Results -/

theorem bind_eq_ok_iff {ε : Type} {x : Except ε α} {f : α → Except ε β} {b : β} :
    x.bind f = .ok b ↔ ∃ a, x = .ok a ∧ f a = .ok b := by
  cases x <;> simp [Except.bind]

theorem map_eq_ok_iff {ε : Type} {x : Except ε α} {f : α → β} {b : β} :
    x.map f = .ok b ↔ ∃ a, x = .ok a ∧ f a = b := by
  cases x <;> simp [Except.map]

/-! ### Fields found one by one -/

theorem position?_eq_none_iff {fields : List Field} {name : String} :
    position? fields name = none ↔ name ∉ fields.map Field.name := by
  rw [position?, List.findIdx?_eq_none_iff]
  simp

theorem exists_of_position? {fields : List Field} {name : String} {i : Nat}
    (h : position? fields name = some i) : ∃ f, fields[i]? = some f ∧ f.name = name := by
  rw [position?, List.findIdx?_eq_some_iff_getElem] at h
  obtain ⟨hlt, hname, -⟩ := h
  exact ⟨fields[i], List.getElem?_eq_getElem hlt, eq_of_beq hname⟩

/-- To find the value of one more name is to fill its slot. -/
theorem set_map_update {γ : Type} {names : List String} (hnodup : names.Nodup)
    (found : String → γ) {name : String} {i : Nat} (hi : names[i]? = some name) (x : γ) :
    (names.map found).set i x = names.map (Function.update found name x) := by
  obtain ⟨hlt, rfl⟩ := List.getElem?_eq_some_iff.mp hi
  apply List.ext_getElem (by simp)
  intro j hj _
  have hlen : j < names.length := by simpa using hj
  have hsame : names[j] = names[i] ↔ i = j := by
    have hinj : names[i] = names[j] ↔ i = j := hnodup.getElem_inj_iff
    rw [eq_comm, hinj]
  simp only [List.getElem_set, List.getElem_map, Function.update_apply, hsame]

/-- Values in the order of different names are values by name. -/
theorem exists_map_eq {γ : Type} [Inhabited γ] {names : List String} (hnodup : names.Nodup)
    {xs : List γ} (hlength : xs.length = names.length) : ∃ value, xs = names.map value := by
  induction names generalizing xs with
  | nil => exact ⟨fun _ => default, List.eq_nil_of_length_eq_zero hlength⟩
  | cons name names ih =>
    cases xs with
    | nil => cases hlength
    | cons x xs =>
      rw [List.nodup_cons] at hnodup
      obtain ⟨value, rfl⟩ := ih hnodup.2 (Nat.succ.inj hlength)
      refine ⟨Function.update value name x, ?_⟩
      rw [List.map_cons, Function.update_self, List.cons.injEq]
      refine ⟨rfl, List.map_congr_left fun n hn => ?_⟩
      rw [Function.update_of_ne]
      rintro rfl
      exact hnodup.1 hn

/-- What a walk over the members of an object finds no fault in. `found` holds the values of the
members before them. -/
structure Walks (fields : List Field) (found : String → Option Draft)
    (ms : List (Option String × Draft)) : Prop where
  named : none ∉ ms.map Prod.fst
  whole : ∀ m ∈ ms, (∀ f ∈ fields, m.1 ≠ some f.name) → m.2 ≠ .cut
  once : ∀ f ∈ fields,
    (found f.name).toList.length + (ms.map Prod.fst).count (some f.name) ≤ 1
  checked : ∀ f ∈ fields, ∀ d, (some f.name, d) ∈ ms → f.check d = .ok ()

theorem walks_nil (fields : List Field) (found : String → Option Draft) :
    Walks fields found [] where
  named := List.not_mem_nil
  whole := fun _ h => absurd h List.not_mem_nil
  once := fun f _ => by cases found f.name <;> simp
  checked := fun _ _ _ h => absurd h List.not_mem_nil

/-- A member of another name has to be whole. -/
theorem walks_cons_other {fields : List Field} {found : String → Option Draft} {name : String}
    (hname : name ∉ fields.map Field.name) {d : Draft} {ms : List (Option String × Draft)} :
    Walks fields found ((some name, d) :: ms) ↔ d ≠ .cut ∧ Walks fields found ms := by
  have hne : ∀ f ∈ fields, some name ≠ some f.name := by
    intro f hf heq
    exact hname (Option.some.inj heq ▸ List.mem_map_of_mem hf)
  constructor
  · intro h
    refine ⟨h.whole _ List.mem_cons_self hne, ?_⟩
    exact
      { named := fun hmem => h.named (List.mem_cons_of_mem _ hmem)
        whole := fun m hm => h.whole m (List.mem_cons_of_mem _ hm)
        once := fun f hf => by
          have honce := h.once f hf
          rwa [List.map_cons, List.count_cons_of_ne (hne f hf)] at honce
        checked := fun f hf d hd => h.checked f hf d (List.mem_cons_of_mem _ hd) }
  · rintro ⟨hd, h⟩
    exact
      { named := by simpa using h.named
        whole := by
          rw [List.forall_mem_cons]
          exact ⟨fun _ => hd, h.whole⟩
        once := fun f hf => by
          rw [List.map_cons, List.count_cons_of_ne (hne f hf)]
          exact h.once f hf
        checked := fun f hf d' hd' => by
          rcases List.mem_cons.mp hd' with heq | hd'
          · exact absurd (Prod.mk.inj heq).1.symm (hne f hf)
          · exact h.checked f hf d' hd' }

/-- To find the value of a name in front of other members is to have it before them. -/
theorem occurrences_cons (found : String → Option Draft) {name : String}
    (hfound : found name = none) (d : Draft) (ms : List (Option String × Draft)) (n : String) :
    (found n).toList.length + (((some name, d) :: ms).map Prod.fst).count (some n) =
      (Function.update found name (some d) n).toList.length +
        (ms.map Prod.fst).count (some n) := by
  rw [List.map_cons, List.count_cons, Function.update_apply]
  by_cases hn : n = name
  · rw [if_pos hn, hn, hfound, beq_self_eq_true, if_pos rfl]
    simp only [Option.toList_none, Option.toList_some, List.length_nil, List.length_singleton]
    omega
  · simp [hn, Ne.symm hn]

/-- A member of a field has to be the first of its name and to pass the check of the field. -/
theorem walks_cons_field {fields : List Field} (hnodup : (fields.map Field.name).Nodup)
    {found : String → Option Draft} {f : Field} (hf : f ∈ fields) {d : Draft}
    {ms : List (Option String × Draft)} : Walks fields found ((some f.name, d) :: ms) ↔
      found f.name = none ∧ f.check d = .ok () ∧
        Walks fields (Function.update found f.name (some d)) ms := by
  constructor
  · intro h
    have hfound : found f.name = none := by
      have honce := h.once f hf
      rw [List.map_cons, List.count_cons_self] at honce
      cases hnone : found f.name with
      | none => rfl
      | some d' =>
        rw [hnone, Option.toList_some, List.length_singleton] at honce
        omega
    refine ⟨hfound, h.checked f hf d List.mem_cons_self, ?_⟩
    exact
      { named := fun hmem => h.named (List.mem_cons_of_mem _ hmem)
        whole := fun m hm => h.whole m (List.mem_cons_of_mem _ hm)
        once := fun g hg => by
          rw [← occurrences_cons found hfound]
          exact h.once g hg
        checked := fun g hg d hd => h.checked g hg d (List.mem_cons_of_mem _ hd) }
  · rintro ⟨hfound, hcheck, h⟩
    exact
      { named := by simpa using h.named
        whole := by
          rw [List.forall_mem_cons]
          exact ⟨fun hother => absurd rfl (hother f hf), h.whole⟩
        once := fun g hg => by
          rw [occurrences_cons found hfound]
          exact h.once g hg
        checked := fun g hg d' hd' => by
          rcases List.mem_cons.mp hd' with heq | hd'
          · have hname := Option.some.inj (Prod.mk.inj heq).1
            rw [List.inj_on_of_nodup_map hnodup hg hf hname, (Prod.mk.inj heq).2]
            exact hcheck
          · exact h.checked g hg d' hd' }

theorem lookup_cons_some (name name' : String) (d : Draft) (ms : List (Option String × Draft)) :
    ((some name, d) :: ms).lookup (some name') =
      if name' = name then some d else ms.lookup (some name') := by
  rw [List.lookup_cons]
  by_cases h : name' = name
  · simp [h]
  · have hbeq : (some name' == some name) = false := beq_eq_false_iff_ne.mpr (by simpa using h)
    rw [hbeq, if_neg h]

theorem walkMembers_cons {fields : List Field} {name : String} {d : Draft}
    {ms : List (Option String × Draft)} {slots : Slots} :
    walkMembers fields ((some name, d) :: ms) slots =
      match position? fields name with
      | none => match d with
        | .cut => .error .syntactic
        | _ => walkMembers fields ms slots
      | some i => match slots.getD i none with
        | some _ => .error .data
        | none => match ((fields[i]?).map (·.check d)).getD (.ok ()) with
          | .error e => .error e
          | .ok () => walkMembers fields ms (slots.set i (some d)) :=
  walkMembers.eq_def fields ((some name, d) :: ms) slots

/-- A member of no field is passed over unless it is cut. -/
theorem walkMembers_other {fields : List Field} {name : String}
    (hname : position? fields name = none)
    {d : Draft} {ms : List (Option String × Draft)} {slots slots' : Slots} :
    walkMembers fields ((some name, d) :: ms) slots = .ok slots' ↔
      d ≠ .cut ∧ walkMembers fields ms slots = .ok slots' := by
  rw [walkMembers_cons, hname]
  cases d with
  | cut => exact iff_of_false nofun fun h => h.1 rfl
  | _ => exact ⟨fun h => ⟨nofun, h⟩, fun h => h.2⟩

/-- A member of a field fills an empty slot. -/
theorem walkMembers_field {fields : List Field} {name : String} {i : Nat} {f : Field}
    (hi : position? fields name = some i) (hf : fields[i]? = some f) {d : Draft}
    {ms : List (Option String × Draft)} {slots slots' : Slots} :
    walkMembers fields ((some name, d) :: ms) slots = .ok slots' ↔
      slots.getD i none = none ∧ f.check d = .ok () ∧
        walkMembers fields ms (slots.set i (some d)) = .ok slots' := by
  rw [walkMembers_cons, hi]
  simp only [hf, Option.map_some, Option.getD_some]
  cases slots.getD i none with
  | some d' => exact iff_of_false nofun fun h => nomatch h.1
  | none =>
    cases f.check d with
    | error e => exact iff_of_false nofun fun h => nomatch h.2.1
    | ok u => simp

/-- To look up the value of a name in front of other members is to have it before them. -/
theorem update_or_lookup {found : String → Option Draft} {name : String}
    (hfound : found name = none) (d : Draft) (ms : List (Option String × Draft)) (n : String) :
    (Function.update found name (some d) n).or (ms.lookup (some n)) =
      (found n).or (((some name, d) :: ms).lookup (some n)) := by
  rw [lookup_cons_some, Function.update_apply]
  split
  · next heq =>
    rw [heq, hfound]
    rfl
  · rfl

/-- A walk over the members of an object finds the value of each field. -/
theorem walkMembers_eq_ok_iff {fields : List Field} (hnodup : (fields.map Field.name).Nodup)
    {ms : List (Option String × Draft)} {found : String → Option Draft} {slots : Slots} :
    walkMembers fields ms ((fields.map Field.name).map found) = .ok slots ↔
      Walks fields found ms ∧
        slots = (fields.map Field.name).map fun name =>
          (found name).or (ms.lookup (some name)) := by
  induction ms generalizing found with
  | nil =>
    rw [walkMembers, Except.ok.injEq, eq_comm]
    simp only [walks_nil, true_and, List.lookup_nil, Option.or_none]
  | cons m ms ih =>
    obtain ⟨name?, d⟩ := m
    cases name? with
    | none =>
      rw [walkMembers]
      exact iff_of_false nofun fun h => h.1.named List.mem_cons_self
    | some name =>
      cases hposition : position? fields name with
      | none =>
        have hname := position?_eq_none_iff.mp hposition
        have hlookup : ((fields.map Field.name).map fun n =>
            (found n).or (((some name, d) :: ms).lookup (some n))) =
              (fields.map Field.name).map fun n => (found n).or (ms.lookup (some n)) := by
          apply List.map_congr_left
          intro n hn
          have hne : n ≠ name := by
            rintro rfl
            exact hname hn
          rw [lookup_cons_some, if_neg hne]
        rw [walkMembers_other hposition, walks_cons_other hname, hlookup, and_assoc, ← ih]
      | some i =>
        obtain ⟨f, hf, rfl⟩ := exists_of_position? hposition
        have hname : (fields.map Field.name)[i]? = some f.name := by
          rw [List.getElem?_map, hf]
          rfl
        have hslot : ((fields.map Field.name).map found).getD i none = found f.name := by
          rw [List.getD_eq_getElem?_getD, List.getElem?_map, hname]
          rfl
        rw [walkMembers_field hposition hf, walks_cons_field hnodup (List.mem_of_getElem? hf),
          hslot, set_map_update hnodup found hname, ih]
        simp only [and_assoc]
        -- the slots are the same, for the one that is filled was empty
        refine and_congr_right fun hfound => and_congr_right fun _ => and_congr_right fun _ => ?_
        simp only [update_or_lookup hfound]

/-! ### Lawful records -/

/-- The fields have different names, and a record is made of values only that pass the checks of
their fields. -/
structure IsLawful (r : Record α) : Prop where
  nodup : r.names.Nodup
  checked : ∀ inArray found a, r.build inArray (r.names.map found) = .ok a →
    ∀ f ∈ r.fields, ∀ d, found f.name = some d → f.check d = .ok ()

/-- An object that a record with the given names can be decoded from: every name is a text, no
member of another name is cut, and no name of a field has two values. -/
structure HasMembers (names : List String) (ms : List (Option String × Draft)) : Prop where
  named : none ∉ ms.map Prod.fst
  whole : ∀ m ∈ ms, (∀ name ∈ names, m.1 ≠ some name) → m.2 ≠ .cut
  once : ∀ name ∈ names, (ms.map Prod.fst).count (some name) ≤ 1

theorem HasMembers.lookup_of_mem {names : List String} {ms : List (Option String × Draft)}
    (h : HasMembers names ms) {name : String} (hname : name ∈ names) {d : Draft}
    (hd : (some name, d) ∈ ms) : ms.lookup (some name) = some d := by
  have honce := h.once name hname
  clear h
  induction ms with
  | nil => cases hd
  | cons m ms ih =>
    obtain ⟨name', d'⟩ := m
    rcases List.mem_cons.mp hd with heq | hrest
    · rw [← heq, List.lookup_cons_self]
    · rw [List.map_cons, List.count_cons] at honce
      have hmem : 0 < (ms.map Prod.fst).count (some name) :=
        List.count_pos_iff.mpr (List.mem_map_of_mem (f := Prod.fst) hrest)
      have hne : (some name == name') = false := by
        rw [beq_eq_false_iff_ne]
        rintro rfl
        rw [beq_self_eq_true, if_pos rfl] at honce
        omega
      rw [List.lookup_cons, hne]
      exact ih hrest (by omega)

theorem mem_of_lookup {ms : List (Option String × Draft)} {name? : Option String} {d : Draft}
    (h : ms.lookup name? = some d) : (name?, d) ∈ ms := by
  induction ms with
  | nil => cases h
  | cons m ms ih =>
    obtain ⟨name', d'⟩ := m
    rw [List.lookup_cons] at h
    split at h
    · next heq =>
      rw [eq_of_beq heq, Option.some.inj h]
      exact List.mem_cons_self
    · exact List.mem_cons_of_mem _ (ih h)

theorem walks_iff_hasMembers {fields : List Field} {ms : List (Option String × Draft)} :
    Walks fields (fun _ => none) ms ↔ HasMembers (fields.map Field.name) ms ∧
      ∀ f ∈ fields, ∀ d, (some f.name, d) ∈ ms → f.check d = .ok () := by
  constructor
  · intro h
    refine ⟨⟨h.named, fun m hm hother => h.whole m hm ?_, ?_⟩, h.checked⟩
    · rwa [List.forall_mem_map] at hother
    · rw [List.forall_mem_map]
      simpa using h.once
  · rintro ⟨h, hchecked⟩
    refine ⟨h.named, fun m hm hother => h.whole m hm ?_, fun f hf => ?_, hchecked⟩
    · rwa [List.forall_mem_map]
    · simpa using h.once f.name (List.mem_map_of_mem hf)

/-- A lawful record is decoded from what its names have for values, and from nothing else. -/
theorem decode_object_iff {r : Record α} (h : r.IsLawful) {ms : List (Option String × Draft)}
    {a : α} : r.decode (.object ms) = .ok a ↔ HasMembers r.names ms ∧
      r.build false (r.names.map fun name => ms.lookup (some name)) = .ok a := by
  have hdecode : r.decode (.object ms) =
      (walkMembers r.fields ms (r.names.map fun _ => none)).bind (r.build false) := by
    rw [decode, names, List.map_map]
    rfl
  have hwalk : ∀ slots, walkMembers r.fields ms (r.names.map fun _ => none) = .ok slots ↔
      Walks r.fields (fun _ => none) ms ∧
        slots = r.names.map fun name => ms.lookup (some name) :=
    fun _ => walkMembers_eq_ok_iff h.nodup
  rw [hdecode, bind_eq_ok_iff]
  constructor
  · rintro ⟨slots, hslots, hbuild⟩
    obtain ⟨hwalks, rfl⟩ := (hwalk slots).mp hslots
    exact ⟨(walks_iff_hasMembers.mp hwalks).1, hbuild⟩
  · rintro ⟨hms, hbuild⟩
    -- what was found made a record, so it passed the checks
    have hchecked : ∀ f ∈ r.fields, ∀ d, (some f.name, d) ∈ ms → f.check d = .ok () :=
      fun f hf d hd => h.checked false _ a hbuild f hf d
        (hms.lookup_of_mem (List.mem_map_of_mem hf) hd)
    exact ⟨_, (hwalk _).mpr ⟨walks_iff_hasMembers.mpr ⟨hms, hchecked⟩, rfl⟩, hbuild⟩

/-! ### Arrays -/

/-- Values that pass the checks of all fields are found in an array. -/
theorem walkItems_map {fields : List Field} {value : String → Draft}
    (h : ∀ f ∈ fields, f.check (value f.name) = .ok ()) :
    walkItems fields ((fields.map Field.name).map value) =
      .ok ((fields.map Field.name).map fun name => some (value name)) := by
  induction fields with
  | nil => rfl
  | cons f fields ih =>
    rw [List.forall_mem_cons] at h
    rw [List.map_cons, List.map_cons, List.map_cons, walkItems, h.1, ih h.2]
    rfl

theorem walkItems_cons_iff {f : Field} {fields : List Field} {d : Draft} {ds : List Draft}
    {slots : Slots} : walkItems (f :: fields) (d :: ds) = .ok slots ↔
      f.check d = .ok () ∧ ∃ rest, walkItems fields ds = .ok rest ∧ slots = some d :: rest := by
  rw [walkItems]
  cases f.check d with
  | error e => exact iff_of_false nofun fun h => nomatch h.1
  | ok u =>
    cases walkItems fields ds with
    | error e => exact iff_of_false nofun fun h => by simp at h
    | ok rest => simp [Except.map, eq_comm]

theorem length_walkItems {fields : List Field} {ds : List Draft} {slots : Slots}
    (h : walkItems fields ds = .ok slots) : slots.length = fields.length := by
  induction fields generalizing ds slots with
  | nil =>
    cases ds with
    | nil =>
      cases h
      rfl
    | cons d ds => cases h
  | cons f fields ih =>
    cases ds with
    | nil =>
      rw [walkItems] at h
      split at h
      · cases hrest : walkItems fields [] with
        | error e =>
          rw [hrest] at h
          cases h
        | ok rest =>
          rw [hrest] at h
          cases h
          rw [List.length_cons, List.length_cons, ih hrest]
      · cases h
    | cons d ds =>
      obtain ⟨-, rest, hrest, rfl⟩ := walkItems_cons_iff.mp h
      rw [List.length_cons, List.length_cons, ih hrest]

/-- An item is found in its slot. -/
theorem getElem?_walkItems {fields : List Field} {ds : List Draft} {slots : Slots}
    (h : walkItems fields ds = .ok slots) {i : Nat} {d : Draft} (hd : ds[i]? = some d) :
    slots[i]? = some (some d) := by
  induction ds generalizing fields slots i with
  | nil => cases hd
  | cons e ds ih =>
    cases fields with
    | nil => cases h
    | cons f fields =>
      obtain ⟨-, rest, hrest, rfl⟩ := walkItems_cons_iff.mp h
      cases i with
      | zero => exact congrArg some hd
      | succ i => exact ih hrest hd

/-- Another value for an item is found in place of it, if it passes the check of its field. -/
theorem walkItems_set {fields : List Field} {ds ds' : List Draft} {d d' : Draft} {slots : Slots}
    {f : Field} (hf : fields[ds.length]? = some f) (hd' : f.check d' = .ok ())
    (h : walkItems fields (ds ++ d :: ds') = .ok slots) :
    walkItems fields (ds ++ d' :: ds') = .ok (slots.set ds.length (some d')) := by
  induction ds generalizing fields slots with
  | nil =>
    cases fields with
    | nil => cases hf
    | cons g fields =>
      cases hf
      obtain ⟨-, rest, hrest, rfl⟩ := walkItems_cons_iff.mp h
      exact walkItems_cons_iff.mpr ⟨hd', rest, hrest, rfl⟩
  | cons e ds ih =>
    cases fields with
    | nil => cases hf
    | cons g fields =>
      obtain ⟨he, rest, hrest, rfl⟩ := walkItems_cons_iff.mp h
      exact walkItems_cons_iff.mpr ⟨he, _, ih hf hrest, rfl⟩

/-! ### Records built field by field -/

/-- What a field makes of the value that was found for it, or of its absence. -/
def slotValue (inArray : Bool) (f : Decoder α) (absence : Absence α) : Option Draft →
    Except Failure α
  | some d => f d
  | none => absent inArray absence

/-- A record with one more field is made of the others and of the value of the field. -/
theorem build_field_iff {r : Record (α → β)} {name : String} {f : Decoder α} {absence : Absence α}
    {inArray : Bool} {slots : Slots} (hlength : slots.length = r.fields.length)
    {slot : Option Draft} {b : β} :
    (r.field name f absence).build inArray (slots ++ [slot]) = .ok b ↔ ∃ make a,
      r.build inArray slots = .ok make ∧ slotValue inArray f absence slot = .ok a ∧
        make a = b := by
  have hbuild : (r.field name f absence).build inArray (slots ++ [slot]) =
      (r.build inArray slots).bind fun make => (slotValue inArray f absence slot).map make := by
    rw [field]
    simp only [← hlength, List.take_left', List.drop_left']
    cases slot <;> rfl
  rw [hbuild, bind_eq_ok_iff]
  simp only [map_eq_ok_iff, exists_and_left]

theorem isLawful_pure (a : α) : (Record.pure a).IsLawful where
  nodup := List.nodup_nil
  checked := fun _ _ _ _ _ hf => absurd hf List.not_mem_nil

theorem names_field (r : Record (α → β)) (name : String) (f : Decoder α) (absence : Absence α) :
    (r.field name f absence).names = r.names ++ [name] := by
  rw [names, field, List.map_append]
  rfl

theorem isLawful_field {r : Record (α → β)} (h : r.IsLawful) {name : String}
    (hname : name ∉ r.names) (f : Decoder α) (absence : Absence α) :
    (r.field name f absence).IsLawful where
  nodup := by
    rw [names_field, List.nodup_append]
    refine ⟨h.nodup, List.nodup_singleton _, ?_⟩
    rintro n hn m hm rfl
    exact hname (List.mem_singleton.mp hm ▸ hn)
  checked := by
    intro inArray found b hbuild g hg d hd
    rw [names_field, List.map_append, List.map_singleton] at hbuild
    obtain ⟨make, a, hmake, ha, -⟩ := (build_field_iff (by simp [names])).mp hbuild
    rcases List.mem_append.mp hg with hg | hg
    · exact h.checked inArray found make hmake g hg d hd
    · rw [List.mem_singleton.mp hg] at hd ⊢
      rw [hd] at ha
      show (f d).map (fun _ => ()) = .ok ()
      rw [show f d = .ok a from ha]
      rfl

end NearbyBeacons.Json.Record
