import Mathlib.Logic.Relation
import NearbyBeacons.Proofs.Json.Reading
import NearbyBeacons.Proofs.Json.Walk
/-!
# Layouts of a tree

The members of an object may be in any order, others may stand among them, and an array of all
fields says the same (`Relaid`). What is decoded stays the same (`Respects.relaid`), and what gives
a field two values is not decoded (`Respects.repeats`), also inside the values of fields.
-/

namespace NearbyBeacons.Json

/-- A field of a record with the shape of its values, and what stands for it where it is left
out. -/
structure FieldShape (σ : Type) where
  name : String
  inner : σ
  omitted : Option Draft

/-- Where the records are in a tree. -/
inductive Shape where
  /-- No record, or none that is looked into. -/
  | leaf
  /-- A record with its fields in order. -/
  | record (fields : List (FieldShape Shape))

/-- The fields of records. -/
abbrev Fields := List (FieldShape Shape)

/-- What says the same: `Relaid shape d d'` changes the layout of one record in `d`. -/
inductive Relaid : Shape → Draft → Draft → Prop
  /-- The members in another order. -/
  | permuted {fields : Fields} {ms ms' : List (Option String × Draft)} (h : ms.Perm ms') :
      Relaid (.record fields) (.object ms) (.object ms')
  /-- One more member, of an unknown name and with any value. -/
  | extended {fields : Fields} {ms : List (Option String × Draft)} {name : String} {d : Draft}
      (hname : name ∉ fields.map (·.name)) (hd : d ≠ .cut) :
      Relaid (.record fields) (.object ms) (.object ((some name, d) :: ms))
  /-- A field that was left out, with what stands for it. -/
  | written {fields : Fields} {ms : List (Option String × Draft)} {f : FieldShape Shape}
      {d : Draft} (hf : f ∈ fields) (hd : f.omitted = some d)
      (hms : some f.name ∉ ms.map Prod.fst) :
      Relaid (.record fields) (.object ms) (.object ((some f.name, d) :: ms))
  /-- A field left out in place of what stands for that. -/
  | dropped {fields : Fields} {ms : List (Option String × Draft)} {f : FieldShape Shape}
      {d : Draft} (hf : f ∈ fields) (hd : f.omitted = some d) :
      Relaid (.record fields) (.object ((some f.name, d) :: ms)) (.object ms)
  /-- All fields in an array. -/
  | listed {fields : Fields} {ms : List (Option String × Draft)} :
      Relaid (.record fields) (.object ms)
        (.array (fields.map fun f => ((ms.lookup (some f.name)).or f.omitted).getD .null))
  /-- Another layout of a record inside a member. -/
  | inMember {fields : Fields} {ms ms' : List (Option String × Draft)} {f : FieldShape Shape}
      {d d' : Draft} (hf : f ∈ fields) (h : Relaid f.inner d d') :
      Relaid (.record fields) (.object (ms ++ (some f.name, d) :: ms'))
        (.object (ms ++ (some f.name, d') :: ms'))
  /-- Another layout of a record inside an item. -/
  | inItem {fields : Fields} {ds ds' : List Draft} {f : FieldShape Shape} {d d' : Draft}
      (hf : fields[ds.length]? = some f) (h : Relaid f.inner d d') :
      Relaid (.record fields) (.array (ds ++ d :: ds')) (.array (ds ++ d' :: ds'))

/-- Some record in the tree has two members of one field. -/
inductive Repeats : Shape → Draft → Prop
  | here {fields : Fields} {ms : List (Option String × Draft)} {f : FieldShape Shape}
      (hf : f ∈ fields) (h : 2 ≤ (ms.map Prod.fst).count (some f.name)) :
      Repeats (.record fields) (.object ms)
  | inMember {fields : Fields} {ms : List (Option String × Draft)} {f : FieldShape Shape}
      {d : Draft} (hf : f ∈ fields) (hd : (some f.name, d) ∈ ms) (h : Repeats f.inner d) :
      Repeats (.record fields) (.object ms)
  | inItem {fields : Fields} {ds : List Draft} {f : FieldShape Shape} {d : Draft} {i : Nat}
      (hf : fields[i]? = some f) (hd : ds[i]? = some d) (h : Repeats f.inner d) :
      Repeats (.record fields) (.array ds)

variable {α β : Type}

/-- What a decoder of values of a shape has to do: layouts do not matter to it, and it takes no
value that repeats a field. -/
structure Respects (f : Decoder α) (shape : Shape) : Prop where
  relaid : ∀ d d' a, Relaid shape d d' → f d = .ok a → f d' = .ok a
  repeats : ∀ d a, Repeats shape d → f d ≠ .ok a

/-- Where no record is looked into, there is nothing to respect. -/
theorem respects_leaf (f : Decoder α) : Respects f .leaf := ⟨nofun, nofun⟩

/-- Only records have another layout, and `null` is none. -/
theorem Relaid.ne_null {shape : Shape} {d d' : Draft} (h : Relaid shape d d') :
    d ≠ .null ∧ d' ≠ .null := by
  cases h <;> exact ⟨nofun, nofun⟩

theorem Repeats.ne_null {shape : Shape} {d : Draft} (h : Repeats shape d) : d ≠ .null := by
  cases h <;> nofun

theorem optional_of_ne_null (f : Decoder α) {d : Draft} (hd : d ≠ .null) :
    Decoder.optional f d = (f d).map some := by
  rw [Decoder.optional]
  exact hd

/-- Since `null` is no record, an option of values respects what the values respect. -/
theorem respects_optional {f : Decoder α} {shape : Shape} (h : Respects f shape) :
    Respects (Decoder.optional f) shape where
  relaid := by
    intro d d' o hrelaid hd
    rw [optional_of_ne_null f hrelaid.ne_null.1] at hd
    rw [optional_of_ne_null f hrelaid.ne_null.2]
    obtain ⟨a, ha, ho⟩ := Record.map_eq_ok_iff.mp hd
    exact Record.map_eq_ok_iff.mpr ⟨a, h.relaid d d' a hrelaid ha, ho⟩
  repeats := by
    intro d o hrepeats hd
    rw [optional_of_ne_null f hrepeats.ne_null] at hd
    obtain ⟨a, ha, -⟩ := Record.map_eq_ok_iff.mp hd
    exact h.repeats d a hrepeats ha

namespace Record

/-- What may stand in the place of what was found for a field, from an object or an array to an
object or an array. -/
inductive Stands (inArray inArray' : Bool) (f : FieldShape Shape) :
    Option Draft → Option Draft → Prop
  | found (d : Draft) : Stands inArray inArray' f (some d) (some d)
  | absent (h : inArray' = inArray) : Stands inArray inArray' f none none
  | relaid {d d' : Draft} (h : Relaid f.inner d d') : Stands inArray inArray' f (some d) (some d')
  | written {d : Draft} (h : inArray = false) (hd : f.omitted = some d) :
      Stands inArray inArray' f none (some d)
  | dropped {d : Draft} (h : inArray' = false) (hd : f.omitted = some d) :
      Stands inArray inArray' f (some d) none

/-- A lawful record of given fields is made in the same way of what stands in their place, and of
no values that repeat a field. -/
structure Fits (r : Record α) (fields : Fields) : Prop where
  lawful : r.IsLawful
  names : r.names = fields.map (·.name)
  stands : ∀ inArray inArray' found found' a, r.build inArray (r.names.map found) = .ok a →
    (∀ f ∈ fields, Stands inArray inArray' f (found f.name) (found' f.name)) →
      r.build inArray' (r.names.map found') = .ok a
  given : ∀ inArray found a, r.build inArray (r.names.map found) = .ok a →
    ∀ f ∈ fields, f.omitted = none → found f.name ≠ none
  repeats : ∀ inArray found a, r.build inArray (r.names.map found) = .ok a →
    ∀ f ∈ fields, ∀ d, found f.name = some d → ¬Repeats f.inner d

theorem fits_pure (a : α) : Fits (Record.pure a) [] where
  lawful := isLawful_pure a
  names := rfl
  stands := fun _ _ _ _ _ h _ => h
  given := fun _ _ _ _ _ hf => absurd hf List.not_mem_nil
  repeats := fun _ _ _ _ _ hf => absurd hf List.not_mem_nil

/-- A field is read as left out from what stands for that, or has to be there if nothing does. -/
def StandsFor (f : Decoder α) (absence : Absence α) : Option Draft → Prop
  | some d => absent false absence = f d
  | none => ∀ inArray a, absent inArray absence ≠ .ok a

/-- What stands in the place of a value is read as the same value. -/
theorem slotValue_of_stands {f : Decoder α} {shape : FieldShape Shape}
    (hf : Respects f shape.inner) {absence : Absence α}
    (homitted : StandsFor f absence shape.omitted) {inArray inArray' : Bool}
    {slot slot' : Option Draft} (hslot : Stands inArray inArray' shape slot slot') {a : α}
    (h : slotValue inArray f absence slot = .ok a) :
    slotValue inArray' f absence slot' = .ok a := by
  cases hslot with
  | found d => exact h
  | absent heq =>
    rw [heq]
    exact h
  | relaid hrelaid => exact hf.relaid _ _ a hrelaid h
  | written harray hd =>
    subst harray
    rw [hd] at homitted
    rw [slotValue, ← show absent false absence = f _ from homitted]
    exact h
  | dropped harray hd =>
    subst harray
    rw [hd] at homitted
    rw [slotValue, show absent false absence = f _ from homitted]
    exact h

/-- One more field fits if its name is new, its values respect their shape, and what stands for
it is read as if it were left out. -/
theorem fits_field {r : Record (α → β)} {fields : Fields} (h : Fits r fields)
    {f : Decoder α} (shape : FieldShape Shape) (hname : shape.name ∉ fields.map (·.name))
    (hf : Respects f shape.inner) {absence : Absence α}
    (homitted : StandsFor f absence shape.omitted) :
    Fits (r.field shape.name f absence) (fields ++ [shape]) where
  lawful := isLawful_field h.lawful (h.names ▸ hname) f absence
  names := by
    rw [names_field, h.names, List.map_append]
    rfl
  stands := by
    intro inArray inArray' found found' b hbuild hstands
    rw [names_field, List.map_append, List.map_singleton] at hbuild ⊢
    rw [List.forall_mem_append, List.forall_mem_singleton] at hstands
    obtain ⟨make, a, hmake, ha, hb⟩ := (build_field_iff (by simp [Record.names])).mp hbuild
    refine (build_field_iff (by simp [Record.names])).mpr ⟨make, a, ?_, ?_, hb⟩
    · exact h.stands _ _ _ _ make hmake hstands.1
    · exact slotValue_of_stands hf homitted hstands.2 ha
  given := by
    intro inArray found b hbuild g hg hnone
    rw [names_field, List.map_append, List.map_singleton] at hbuild
    obtain ⟨make, a, hmake, ha, -⟩ := (build_field_iff (by simp [Record.names])).mp hbuild
    rcases List.mem_append.mp hg with hg | hg
    · exact h.given _ _ make hmake g hg hnone
    · rw [List.mem_singleton.mp hg] at hnone ⊢
      rw [hnone] at homitted
      intro hfound
      rw [hfound] at ha
      exact homitted inArray a ha
  repeats := by
    intro inArray found b hbuild g hg d hd hrepeats
    rw [names_field, List.map_append, List.map_singleton] at hbuild
    obtain ⟨make, a, hmake, ha, -⟩ := (build_field_iff (by simp [Record.names])).mp hbuild
    rcases List.mem_append.mp hg with hg | hg
    · exact h.repeats _ _ make hmake g hg d hd hrepeats
    · rw [List.mem_singleton.mp hg] at hd hrepeats
      rw [hd] at ha
      exact hf.repeats d a hrepeats ha

section Combinators

variable {fields : Fields} {inner : Shape}

/-- Nothing stands for a field that has to be there. -/
theorem Fits.required {r : Record (α → β)} (h : Fits r fields) (name : String)
    (hname : name ∉ fields.map (·.name)) {f : Decoder α} (hf : Respects f inner) :
    Fits (r.required name f) (fields ++ [⟨name, inner, none⟩]) :=
  fits_field h ⟨name, inner, none⟩ hname hf fun _ _ => nofun

/-- For a field that may be left out there stands `null`. -/
theorem Fits.optionalField {r : Record (Option α → β)} (h : Fits r fields) (name : String)
    (hname : name ∉ fields.map (·.name)) {f : Decoder α} (hf : Respects f inner) :
    Fits (r.optionalField name f) (fields ++ [⟨name, inner, some .null⟩]) :=
  fits_field h ⟨name, inner, some .null⟩ hname (respects_optional hf) rfl

theorem Fits.trailingField {r : Record (Option α → β)} (h : Fits r fields) (name : String)
    (hname : name ∉ fields.map (·.name)) {f : Decoder α} (hf : Respects f inner) :
    Fits (r.trailingField name f) (fields ++ [⟨name, inner, some .null⟩]) :=
  fits_field h ⟨name, inner, some .null⟩ hname (respects_optional hf) rfl

theorem Fits.defaultField {r : Record (α → β)} (h : Fits r fields) (name : String)
    (hname : name ∉ fields.map (·.name)) {f : Decoder α} (hf : Respects f inner) {a : α}
    {d : Draft} (hd : f d = .ok a) :
    Fits (r.defaultField name f a) (fields ++ [⟨name, inner, some d⟩]) :=
  fits_field h ⟨name, inner, some d⟩ hname hf hd.symm

end Combinators

theorem stands_self (inArray : Bool) (f : FieldShape Shape) (slot : Option Draft) :
    Stands inArray inArray f slot slot := by
  cases slot with
  | none => exact .absent rfl
  | some d => exact .found d

/-! ### Objects -/

/-- The order of the members does not matter. -/
theorem HasMembers.perm {names : List String} {ms ms' : List (Option String × Draft)}
    (h : HasMembers names ms) (hperm : ms.Perm ms') : HasMembers names ms' where
  named := fun hmem => h.named ((hperm.map Prod.fst).mem_iff.mpr hmem)
  whole := fun m hm => h.whole m (hperm.mem_iff.mpr hm)
  once := fun name hname => by
    rw [← (hperm.map Prod.fst).count_eq]
    exact h.once name hname

theorem HasMembers.lookup_perm {names : List String} {ms ms' : List (Option String × Draft)}
    (h : HasMembers names ms) (hperm : ms.Perm ms') {name : String} (hname : name ∈ names) :
    ms'.lookup (some name) = ms.lookup (some name) := by
  cases hlookup : ms.lookup (some name) with
  | some d => exact (h.perm hperm).lookup_of_mem hname (hperm.mem_iff.mp (mem_of_lookup hlookup))
  | none =>
    cases hlookup' : ms'.lookup (some name) with
    | none => rfl
    | some d =>
      rw [h.lookup_of_mem hname (hperm.mem_iff.mpr (mem_of_lookup hlookup'))] at hlookup
      cases hlookup

/-- One more member may have an unknown name and any whole value, or the name of a field that has
no member yet. -/
theorem HasMembers.cons {names : List String} {ms : List (Option String × Draft)}
    (h : HasMembers names ms) {name : String} {d : Draft} (hd : name ∉ names → d ≠ .cut)
    (hnew : name ∈ names → some name ∉ ms.map Prod.fst) :
    HasMembers names ((some name, d) :: ms) where
  named := by simpa using h.named
  whole := by
    rw [List.forall_mem_cons]
    exact ⟨fun hother => hd fun hmem => hother name hmem rfl, h.whole⟩
  once := fun n hn => by
    rw [List.map_cons, List.count_cons]
    by_cases heq : some name = some n
    · have hzero : (ms.map Prod.fst).count (some n) = 0 := by
        rw [List.count_eq_zero, ← heq]
        exact hnew (Option.some.inj heq ▸ hn)
      rw [hzero]
      split <;> decide
    · have honce := h.once n hn
      rw [if_neg (by simpa using heq)]
      omega

theorem HasMembers.tail {names : List String} {m : Option String × Draft}
    {ms : List (Option String × Draft)} (h : HasMembers names (m :: ms)) :
    HasMembers names ms where
  named := fun hmem => h.named (List.mem_cons_of_mem _ hmem)
  whole := fun m' hm' => h.whole m' (List.mem_cons_of_mem _ hm')
  once := fun name hname => by
    have honce := h.once name hname
    rw [List.map_cons, List.count_cons] at honce
    omega

theorem HasMembers.set {names : List String} {name : String} (hname : name ∈ names) {d d' : Draft}
    {ms ms' : List (Option String × Draft)} (h : HasMembers names (ms ++ (some name, d) :: ms')) :
    HasMembers names (ms ++ (some name, d') :: ms') where
  named := by simpa using h.named
  whole := fun m hm hother => by
    rcases List.mem_append.mp hm with hm | hm
    · exact h.whole m (List.mem_append_left _ hm) hother
    · rcases List.mem_cons.mp hm with rfl | hm
      · exact absurd rfl (hother name hname)
      · exact h.whole m (List.mem_append_right _ (List.mem_cons_of_mem _ hm)) hother
  once := by simpa using h.once

variable {r : Record α} {fields : Fields}

/-- Fields of one name are one field. -/
theorem Fits.eq_of_name (h : Fits r fields) {f g : FieldShape Shape} (hf : f ∈ fields)
    (hg : g ∈ fields) (hname : f.name = g.name) : f = g := by
  have hnodup := h.lawful.nodup
  rw [h.names] at hnodup
  exact List.inj_on_of_nodup_map hnodup hf hg hname

theorem Fits.name_mem (h : Fits r fields) {f : FieldShape Shape} (hf : f ∈ fields) :
    f.name ∈ r.names := by
  rw [h.names]
  exact List.mem_map_of_mem hf

/-- From objects that hold for each field what may stand in its place the same is decoded. -/
theorem Fits.decode_object (h : Fits r fields) {ms ms' : List (Option String × Draft)} {a : α}
    (hdecode : r.decode (.object ms) = .ok a) (hms' : HasMembers r.names ms')
    (hstands : ∀ f ∈ fields,
      Stands false false f (ms.lookup (some f.name)) (ms'.lookup (some f.name))) :
    r.decode (.object ms') = .ok a := by
  have hbuild := ((decode_object_iff h.lawful).mp hdecode).2
  exact (decode_object_iff h.lawful).mpr ⟨hms', h.stands _ _ _ _ a hbuild hstands⟩

/-- An array of what may stand in the place of each field is decoded to the same. -/
theorem Fits.decode_array (h : Fits r fields) {inArray : Bool} {found : String → Option Draft}
    {a : α} (hbuild : r.build inArray (r.names.map found) = .ok a) {value : String → Draft}
    (hstands : ∀ f ∈ fields, Stands inArray true f (found f.name) (some (value f.name))) :
    r.decode (.array (r.names.map value)) = .ok a := by
  have hbuild' := h.stands _ true _ (fun name => some (value name)) a hbuild hstands
  have hchecked : ∀ f ∈ r.fields, f.check (value f.name) = .ok () := fun f hf =>
    h.lawful.checked _ _ a hbuild' f hf _ rfl
  have hwalk : walkItems r.fields (r.names.map value) =
      .ok (r.names.map fun name => some (value name)) := walkItems_map hchecked
  rw [decode, hwalk]
  exact hbuild'

/-- What is found in an array is found by name. -/
theorem Fits.exists_found (h : Fits r fields) {ds : List Draft} {a : α}
    (hdecode : r.decode (.array ds) = .ok a) : ∃ found : String → Option Draft,
      walkItems r.fields ds = .ok (r.names.map found) ∧
        r.build true (r.names.map found) = .ok a := by
  obtain ⟨slots, hslots, hbuild⟩ := bind_eq_ok_iff.mp hdecode
  have hlength : slots.length = r.names.length := by
    rw [length_walkItems hslots, Record.names, List.length_map]
  obtain ⟨found, rfl⟩ := exists_map_eq h.lawful.nodup hlength
  exact ⟨found, hslots, hbuild⟩

/-! ### One step -/

theorem Fits.decode_permuted (h : Fits r fields) {ms ms' : List (Option String × Draft)} {a : α}
    (hperm : ms.Perm ms') (hdecode : r.decode (.object ms) = .ok a) :
    r.decode (.object ms') = .ok a := by
  have hms := ((decode_object_iff h.lawful).mp hdecode).1
  apply h.decode_object hdecode (hms.perm hperm)
  intro f hf
  rw [hms.lookup_perm hperm (h.name_mem hf)]
  exact stands_self _ _ _

/-- A member of an unknown name is passed over. -/
theorem Fits.decode_extended (h : Fits r fields) {ms : List (Option String × Draft)}
    {name : String} {d : Draft} {a : α} (hname : name ∉ fields.map (·.name)) (hd : d ≠ .cut)
    (hdecode : r.decode (.object ms) = .ok a) :
    r.decode (.object ((some name, d) :: ms)) = .ok a := by
  have hms := ((decode_object_iff h.lawful).mp hdecode).1
  apply h.decode_object hdecode (hms.cons (fun _ => hd) fun hmem => absurd (h.names ▸ hmem) hname)
  intro f hf
  have hne : f.name ≠ name := by
    rintro rfl
    exact hname (List.mem_map_of_mem hf)
  rw [lookup_cons_some, if_neg hne]
  exact stands_self _ _ _

theorem Fits.decode_written (h : Fits r fields) {ms : List (Option String × Draft)}
    {f : FieldShape Shape} {d : Draft} {a : α} (hf : f ∈ fields) (hd : f.omitted = some d)
    (hnew : some f.name ∉ ms.map Prod.fst) (hdecode : r.decode (.object ms) = .ok a) :
    r.decode (.object ((some f.name, d) :: ms)) = .ok a := by
  have hms := ((decode_object_iff h.lawful).mp hdecode).1
  apply h.decode_object hdecode
    (hms.cons (fun hother => absurd (h.name_mem hf) hother) fun _ => hnew)
  intro g hg
  rw [lookup_cons_some]
  split
  · next heq =>
    rw [h.eq_of_name hg hf heq]
    cases hlookup : ms.lookup (some f.name) with
    | none => exact .written rfl hd
    | some d' => exact absurd (List.mem_map_of_mem (f := Prod.fst) (mem_of_lookup hlookup)) hnew
  · exact stands_self _ _ _

theorem Fits.decode_dropped (h : Fits r fields) {ms : List (Option String × Draft)}
    {f : FieldShape Shape} {d : Draft} {a : α} (hf : f ∈ fields) (hd : f.omitted = some d)
    (hdecode : r.decode (.object ((some f.name, d) :: ms)) = .ok a) :
    r.decode (.object ms) = .ok a := by
  have hms := ((decode_object_iff h.lawful).mp hdecode).1
  apply h.decode_object hdecode hms.tail
  intro g hg
  rw [lookup_cons_some]
  split
  · next heq =>
    rw [h.eq_of_name hg hf heq]
    -- the member that was dropped was the only one of its name
    have hlookup : ms.lookup (some f.name) = none := by
      cases hlookup : ms.lookup (some f.name) with
      | none => rfl
      | some d' =>
        have honce := hms.once f.name (h.name_mem hf)
        have hmem : 0 < (ms.map Prod.fst).count (some f.name) :=
          List.count_pos_iff.mpr (List.mem_map_of_mem (f := Prod.fst) (mem_of_lookup hlookup))
        rw [List.map_cons, List.count_cons_self] at honce
        omega
    rw [hlookup]
    exact .dropped rfl hd
  · exact stands_self _ _ _

/-- The fields may stand in an array, in order and without names. -/
theorem Fits.decode_listed (h : Fits r fields) {ms : List (Option String × Draft)} {a : α}
    (hdecode : r.decode (.object ms) = .ok a) : r.decode (.array (fields.map fun f =>
      ((ms.lookup (some f.name)).or f.omitted).getD .null)) = .ok a := by
  obtain ⟨hms, hbuild⟩ := (decode_object_iff h.lawful).mp hdecode
  have hlength : (fields.map fun f =>
      ((ms.lookup (some f.name)).or f.omitted).getD .null).length = r.names.length := by
    rw [h.names]
    simp
  obtain ⟨value, hvalue⟩ := exists_map_eq h.lawful.nodup hlength
  rw [hvalue]
  apply h.decode_array hbuild
  intro f hf
  rw [h.names, List.map_map] at hvalue
  rw [← show _ = value f.name from List.map_inj_left.mp hvalue f hf]
  cases hlookup : ms.lookup (some f.name) with
  | some d => exact .found d
  | none =>
    cases homitted : f.omitted with
    | some d => exact .written rfl homitted
    | none => exact absurd hlookup (h.given _ _ a hbuild f hf homitted)

theorem Fits.decode_inMember (h : Fits r fields) {ms ms' : List (Option String × Draft)}
    {f : FieldShape Shape} {d d' : Draft} {a : α} (hf : f ∈ fields) (hd : Relaid f.inner d d')
    (hdecode : r.decode (.object (ms ++ (some f.name, d) :: ms')) = .ok a) :
    r.decode (.object (ms ++ (some f.name, d') :: ms')) = .ok a := by
  have hms := ((decode_object_iff h.lawful).mp hdecode).1
  have hname := h.name_mem hf
  apply h.decode_object hdecode (hms.set hname)
  intro g hg
  by_cases heq : g.name = f.name
  · have hlookup : (ms ++ (some f.name, d) :: ms').lookup (some f.name) = some d :=
      hms.lookup_of_mem hname (by simp)
    have hlookup' : (ms ++ (some f.name, d') :: ms').lookup (some f.name) = some d' :=
      (hms.set hname).lookup_of_mem hname (by simp)
    rw [h.eq_of_name hg hf heq, hlookup, hlookup']
    exact .relaid hd
  · rw [List.lookup_append, List.lookup_append, lookup_cons_some, lookup_cons_some, if_neg heq,
      if_neg heq]
    exact stands_self _ _ _

theorem Fits.decode_inItem (h : Fits r fields) {ds ds' : List Draft} {f : FieldShape Shape}
    {d d' : Draft} {a : α} (hf : fields[ds.length]? = some f) (hd : Relaid f.inner d d')
    (hdecode : r.decode (.array (ds ++ d :: ds')) = .ok a) :
    r.decode (.array (ds ++ d' :: ds')) = .ok a := by
  obtain ⟨found, hwalk, hbuild⟩ := h.exists_found hdecode
  have hname : r.names[ds.length]? = some f.name := by
    rw [h.names, List.getElem?_map, hf]
    rfl
  have hfound : found f.name = some d := by
    have hslot := getElem?_walkItems hwalk (i := ds.length) (d := d) (by simp)
    rw [List.getElem?_map, hname] at hslot
    exact Option.some.inj hslot
  have hbuild' : r.build true (r.names.map (Function.update found f.name (some d'))) = .ok a := by
    apply h.stands _ _ _ _ a hbuild
    intro g hg
    rw [Function.update_apply]
    split
    · next heq =>
      rw [h.eq_of_name hg (List.mem_of_getElem? hf) heq, hfound]
      exact .relaid hd
    · exact stands_self _ _ _
  obtain ⟨g, hg, hgname⟩ : ∃ g, r.fields[ds.length]? = some g ∧ g.name = f.name := by
    rw [Record.names, List.getElem?_map] at hname
    exact Option.map_eq_some_iff.mp hname
  have hcheck : g.check d' = .ok () := by
    apply h.lawful.checked _ _ a hbuild' g (List.mem_of_getElem? hg)
    rw [hgname, Function.update_self]
  rw [decode, walkItems_set hg hcheck hwalk, set_map_update h.lawful.nodup found hname]
  exact hbuild'

/-- A record respects the layout of its fields. -/
theorem Fits.respects (h : Fits r fields) : Respects r.decode (.record fields) where
  relaid := by
    intro d d' a hrelaid hdecode
    cases hrelaid with
    | permuted hperm => exact h.decode_permuted hperm hdecode
    | extended hname hd => exact h.decode_extended hname hd hdecode
    | written hf hd hnew => exact h.decode_written hf hd hnew hdecode
    | dropped hf hd => exact h.decode_dropped hf hd hdecode
    | listed => exact h.decode_listed hdecode
    | inMember hf hd => exact h.decode_inMember hf hd hdecode
    | inItem hf hd => exact h.decode_inItem hf hd hdecode
  repeats := by
    intro d a hrepeats hdecode
    cases hrepeats with
    | here hf htwice =>
      have honce := ((decode_object_iff h.lawful).mp hdecode).1.once _ (h.name_mem hf)
      omega
    | inMember hf hd hinner =>
      obtain ⟨hms, hbuild⟩ := (decode_object_iff h.lawful).mp hdecode
      exact h.repeats _ _ a hbuild _ hf _ (hms.lookup_of_mem (h.name_mem hf) hd) hinner
    | @inItem _ ds f d i hf hd hinner =>
      obtain ⟨found, hwalk, hbuild⟩ := h.exists_found hdecode
      have hfound : found f.name = some d := by
        have hslot := getElem?_walkItems hwalk hd
        rw [h.names, List.getElem?_map, List.getElem?_map, hf] at hslot
        exact Option.some.inj hslot
      exact h.repeats _ _ a hbuild f (List.mem_of_getElem? hf) d hfound hinner

end Record

/-- Any number of steps leave what is decoded as it is. -/
theorem Respects.relaid_many {f : Decoder α} {shape : Shape} (h : Respects f shape) {d d' : Draft}
    (hrelaid : Relation.ReflTransGen (Relaid shape) d d') {a : α} (hd : f d = .ok a) :
    f d' = .ok a := by
  induction hrelaid with
  | refl => exact hd
  | tail _ hstep ih => exact h.relaid _ _ a hstep ih

/-! ### Texts -/

/-- Every text from which something is decoded spells a tree. From each spelling of each layout of
that tree the same is decoded, and from a text that gives a field two values nothing is. -/
structure IsLayoutFree (f : Decoder α) (shape : Shape) : Prop where
  spelled : ∀ cs a, f.decodeText cs = .ok a → ∃ d : Draft, Spells cs d.tokens
  relaid : ∀ (d d' : Draft) cs cs' a, Spells cs d.tokens → Spells cs' d'.tokens →
    Relation.ReflTransGen (Relaid shape) d d' → f.decodeText cs = .ok a → f.decodeText cs' = .ok a
  repeats : ∀ (d : Draft) cs a, Repeats shape d → Spells cs d.tokens → f.decodeText cs ≠ .ok a

theorem Respects.isLayoutFree {f : Decoder α} {shape : Shape} (h : Respects f shape) :
    IsLayoutFree f shape where
  spelled := by
    intro cs a hdecode
    obtain ⟨d, hspells, -⟩ := decodeText_eq_ok_iff.mp hdecode
    exact ⟨d, hspells⟩
  relaid := by
    intro d d' cs cs' a hspells hspells' hrelaid hdecode
    rw [decodeText_of_spells f hspells] at hdecode
    rw [decodeText_of_spells f hspells']
    exact h.relaid_many hrelaid hdecode
  repeats := by
    intro d cs a hrepeats hspells
    rw [decodeText_of_spells f hspells]
    exact h.repeats d a hrepeats

end NearbyBeacons.Json
