import NearbyBeacons.Proofs.Settings.Checks
/-!
# What is reported of settings

Each field has a rule that says which of its values offend. Settings are answered with the
offending fields in the order of their declaration, one by its own error and several by one flat
list (`reports_invalidFields`, `map_path_invalidFields`), but for the unit of distances, whose
value nothing looks at (`validate_reports_offences_iff`): a blank unit is accepted
(`blank_distanceUnit_accepted`). A field that is repaired is no longer reported, and the reports
of the others stay what they were.
-/

namespace NearbyBeacons.Settings

/-! ### Fields and their rules -/

/-- The fields of settings. -/
inductive FieldName where
  | host
  | port
  | staleTimeout
  | expiryInterval
  | distanceUnknown
  | txPowerUnknown
  | distanceUnit
  | logLevel
  | production
  deriving DecidableEq, Repr

/-- The path of a field. -/
def FieldName.path : FieldName → String
  | host => "server.host"
  | port => "server.port"
  | staleTimeout => "tracking.stale_timeout_secs"
  | expiryInterval => "tracking.expiry_interval_secs"
  | distanceUnknown => "display.distance_unknown"
  | txPowerUnknown => "display.tx_power_unknown"
  | distanceUnit => "display.distance_unit"
  | logLevel => "logging.level"
  | production => "logging.production"

/-- All fields, in the order of their declaration. -/
def FieldName.all : List FieldName :=
  [host, port, staleTimeout, expiryInterval, distanceUnknown, txPowerUnknown, distanceUnit,
    logLevel, production]

/-- The value of a field. -/
inductive FieldValue where
  | address (a : IpAddress)
  | number (n : Nat)
  | text (s : String)
  | flag (b : Bool)
  deriving DecidableEq, Repr

/-- The value that a field has in settings. -/
def value (s : Settings) : FieldName → FieldValue
  | .host => .address s.server.host
  | .port => .number s.server.port.toNat
  | .staleTimeout => .number s.tracking.staleTimeoutSecs.toNat
  | .expiryInterval => .number s.tracking.expiryIntervalSecs.toNat
  | .distanceUnknown => .text s.display.distanceUnknown
  | .txPowerUnknown => .text s.display.txPowerUnknown
  | .distanceUnit => .text s.display.distanceUnit
  | .logLevel => .text s.logging.level
  | .production => .flag s.logging.production

/-- No character of a text shows. -/
def ShowsNothing (text : String) : Prop := ∀ c ∈ text.toList, Text.isBlank c = true

-- the characters of the text are looked at, not all characters there are
instance : DecidablePred ShowsNothing := fun text =>
  List.decidableBAll (fun c => Text.isBlank c = true) text.toList

theorem showsNothing_iff {text : String} : ShowsNothing text ↔ Text.isBlankText text = true := by
  rw [ShowsNothing, Text.isBlankText, List.all_eq_true]

/-- The value of a field is one that the service cannot work with: a port or an interval of zero, a
timeout of zero or of more than a day, a label or a level that shows nothing. -/
def Offends (s : Settings) : FieldName → Prop
  | .host | .production => False
  | .port => s.server.port = 0
  | .staleTimeout =>
    ¬(1 ≤ s.tracking.staleTimeoutSecs.toNat ∧ s.tracking.staleTimeoutSecs.toNat ≤ 86400)
  | .expiryInterval => s.tracking.expiryIntervalSecs = 0
  | .distanceUnknown => ShowsNothing s.display.distanceUnknown
  | .txPowerUnknown => ShowsNothing s.display.txPowerUnknown
  | .distanceUnit => ShowsNothing s.display.distanceUnit
  | .logLevel => ShowsNothing s.logging.level

instance (s : Settings) : DecidablePred s.Offends
  | .host | .production => inferInstanceAs (Decidable False)
  | .port => inferInstanceAs (Decidable (s.server.port = 0))
  | .staleTimeout => inferInstanceAs (Decidable
      ¬(1 ≤ s.tracking.staleTimeoutSecs.toNat ∧ s.tracking.staleTimeoutSecs.toNat ≤ 86400))
  | .expiryInterval => inferInstanceAs (Decidable (s.tracking.expiryIntervalSecs = 0))
  | .distanceUnknown => inferInstanceAs (Decidable (ShowsNothing s.display.distanceUnknown))
  | .txPowerUnknown => inferInstanceAs (Decidable (ShowsNothing s.display.txPowerUnknown))
  | .distanceUnit => inferInstanceAs (Decidable (ShowsNothing s.display.distanceUnit))
  | .logLevel => inferInstanceAs (Decidable (ShowsNothing s.logging.level))

/-- The fields that offend, each once, in the order of their declaration. -/
def offences (s : Settings) : List FieldName := FieldName.all.filter (s.Offends ·)

theorem FieldName.mem_all (f : FieldName) : f ∈ all := by
  cases f <;> decide

theorem mem_offences_iff {s : Settings} {f : FieldName} : f ∈ s.offences ↔ s.Offends f := by
  rw [offences, List.mem_filter, decide_eq_true_eq]
  exact and_iff_right (FieldName.mem_all f)

/-! ### Checked fields -/

/-- A checked field is a field. -/
def ofChecked : CheckedField → FieldName
  | .port => .port
  | .staleTimeout => .staleTimeout
  | .expiryInterval => .expiryInterval
  | .distanceUnknown => .distanceUnknown
  | .txPowerUnknown => .txPowerUnknown
  | .logLevel => .logLevel

theorem path_ofChecked (f : CheckedField) : (ofChecked f).path = f.path := by
  cases f <;> rfl

/-- No two fields have one path. -/
theorem FieldName.path_injective : Function.Injective FieldName.path := by
  intro f g h
  cases f <;> cases g <;> first | rfl | exact absurd h (by decide)

/-- There is a complaint about a checked field exactly when it offends. -/
theorem complaint?_eq_none_iff {s : Settings} {f : CheckedField} :
    s.complaint? f = none ↔ ¬s.Offends (ofChecked f) := by
  have hblank : ∀ text, blankComplaint text = none ↔ ¬ShowsNothing text := by
    intro text
    rw [blankComplaint_eq_none_iff, showsNothing_iff, Bool.not_eq_true]
  cases f with
  | port => rw [complaint?, zeroComplaint_eq_none_iff, ofChecked, Offends, ← UInt16.toNat_inj]; rfl
  | staleTimeout => rw [complaint?, timeoutComplaint_eq_none_iff, ofChecked, Offends, not_not]; rfl
  | expiryInterval =>
    rw [complaint?, zeroComplaint_eq_none_iff, ofChecked, Offends, ← UInt64.toNat_inj]; rfl
  | distanceUnknown => exact hblank _
  | txPowerUnknown => exact hblank _
  | logLevel => exact hblank _

/-- Only the value of a field decides what the complaint about it is. -/
theorem complaint?_congr {s s' : Settings} {f : CheckedField}
    (h : s'.value (ofChecked f) = s.value (ofChecked f)) : s'.complaint? f = s.complaint? f := by
  cases f <;> simp_all [value, ofChecked, complaint?]

/-- The checked fields that offend are all fields that do, but for the unit of distances. -/
theorem map_ofChecked_filter (s : Settings) :
    (checkedFields.filter (s.Offends <| ofChecked ·)).map ofChecked =
      s.offences.filter (· ≠ .distanceUnit) := by
  have hchecked : checkedFields.map ofChecked =
      FieldName.all.filter (· ∉ [.host, .distanceUnit, .production]) := rfl
  calc (checkedFields.filter (s.Offends <| ofChecked ·)).map ofChecked
      = (checkedFields.map ofChecked).filter (s.Offends ·) := by rw [List.filter_map]; rfl
    _ = s.offences.filter (· ≠ .distanceUnit) := by
      rw [hchecked, offences, List.filter_filter, List.filter_filter]
      apply List.filter_congr
      intro f _
      rw [Bool.eq_iff_iff, Bool.and_eq_true, Bool.and_eq_true]
      simp only [decide_eq_true_eq]
      -- the other two fields that are not checked never offend
      cases f <;> simp [Offends]

/-! ### Reports -/

/-- The answer reports these fields: no field by accepting the settings, one by its own error, and
several by one flat list. -/
inductive Reports : Except SettingsError Unit → List InvalidField → Prop
  | none : Reports (.ok ()) []
  | one (field : InvalidField) : Reports (.error (.invalid field)) [field]
  | several {fields : List InvalidField} (h : 2 ≤ fields.length) :
    Reports (.error (.severalInvalid fields)) fields

theorem reports_invalidFields (s : Settings) : Reports s.validate s.invalidFields := by
  rw [validate]
  rcases s.invalidFields with - | ⟨first, - | ⟨second, rest⟩⟩
  · exact .none
  · exact .one first
  · exact .several (by simp)

theorem Reports.unique {answer : Except SettingsError Unit} {fields fields' : List InvalidField}
    (h : Reports answer fields) (h' : Reports answer fields') : fields = fields' := by
  cases h <;> cases h' <;> rfl

theorem reports_iff {s : Settings} {fields : List InvalidField} :
    Reports s.validate fields ↔ fields = s.invalidFields := by
  constructor
  · exact fun h => h.unique s.reports_invalidFields
  · rintro rfl
    exact s.reports_invalidFields

/-- What is reported are the offending fields but for the unit of distances. -/
theorem map_path_invalidFields (s : Settings) :
    s.invalidFields.map (·.field.path) =
      (s.offences.filter (· ≠ .distanceUnit)).map FieldName.path := by
  have hfields : s.invalidFields.map (·.field) =
      checkedFields.filter (s.Offends <| ofChecked ·) := by
    rw [invalidFields, List.map_filterMap, ← List.filterMap_eq_filter]
    congr 1
    funext f
    by_cases h : s.Offends (ofChecked f)
    · obtain ⟨complaint, hc⟩ := Option.ne_none_iff_exists'.mp
        (mt complaint?_eq_none_iff.mp (not_not.mpr h))
      simp [hc, h, Option.guard]
    · simp [complaint?_eq_none_iff.mpr h, h, Option.guard]
  calc s.invalidFields.map (·.field.path)
      = ((s.invalidFields.map (·.field)).map ofChecked).map FieldName.path := by
        simp only [List.map_map]
        exact List.map_congr_left fun i _ => (path_ofChecked i.field).symm
    _ = (s.offences.filter (· ≠ .distanceUnit)).map FieldName.path := by
        rw [hfields, map_ofChecked_filter]

/-- When one field is repaired, its report goes and the others stay. -/
theorem invalidFields_repair {s s' : Settings} {f : FieldName}
    (hothers : ∀ g, g ≠ f → s'.value g = s.value g) (hrepaired : ¬s'.Offends f) :
    s'.invalidFields = s.invalidFields.filter (·.field.path ≠ f.path) := by
  rw [invalidFields, invalidFields, List.filter_filterMap]
  congr 1
  funext g
  by_cases hg : ofChecked g = f
  · subst hg
    rw [complaint?_eq_none_iff.mpr hrepaired]
    cases s.complaint? g <;> simp [Option.filter, path_ofChecked]
  · have hpath : g.path ≠ f.path := fun h => hg (FieldName.path_injective (path_ofChecked g ▸ h))
    rw [complaint?_congr (hothers _ hg)]
    cases s.complaint? g <;> simp [Option.filter, hpath]

/-- **Which problems are reported.** The fields that are reported are exactly the offending ones,
in the order of their declaration and each once, precisely when the unit of distances is none of
them: the unit alone is never reported. So settings are accepted exactly when no other field
offends. When one field is repaired, its report goes and all others stay. -/
theorem validate_reports_offences_iff (s : Settings) :
    ((∃ fields, Reports s.validate fields ∧
          fields.map (·.field.path) = s.offences.map FieldName.path) ↔ ¬s.Offends .distanceUnit) ∧
      (∃ fields, Reports s.validate fields ∧
        fields.map (·.field.path) = (s.offences.filter (· ≠ .distanceUnit)).map FieldName.path) ∧
      (s.validate = .ok () ↔ ∀ f, f ≠ .distanceUnit → ¬s.Offends f) ∧
      ∀ (s' : Settings) (f : FieldName), (∀ g, g ≠ f → s'.value g = s.value g) → ¬s'.Offends f →
        ∀ fields, Reports s.validate fields →
          Reports s'.validate (fields.filter (·.field.path ≠ f.path)) := by
  refine ⟨⟨?_, fun hunit => ?_⟩, ?_, ?_, ?_⟩
  · rintro ⟨fields, hreports, hpaths⟩ hunit
    rw [reports_iff.mp hreports, map_path_invalidFields] at hpaths
    have hall := List.map_injective_iff.mpr FieldName.path_injective hpaths
    have hkept := List.filter_eq_self.mp hall .distanceUnit (mem_offences_iff.mpr hunit)
    simp at hkept
  · refine ⟨s.invalidFields, s.reports_invalidFields, ?_⟩
    rw [map_path_invalidFields, List.filter_eq_self.mpr]
    intro f hf
    have hne : f ≠ .distanceUnit := by
      rintro rfl
      exact hunit (mem_offences_iff.mp hf)
    exact decide_eq_true hne
  · exact ⟨s.invalidFields, s.reports_invalidFields, s.map_path_invalidFields⟩
  · rw [validate_eq_ok_iff, ← invalidFields_eq_nil_iff, ← List.map_eq_nil_iff,
      map_path_invalidFields, List.map_eq_nil_iff, List.filter_eq_nil_iff]
    simp only [mem_offences_iff, decide_eq_true_eq]
    exact ⟨fun h f hne hf => h f hf hne, fun h f hf hne => h f hne hf⟩
  · intro s' f hothers hrepaired fields hreports
    rw [reports_iff.mp hreports, reports_iff, invalidFields_repair hothers hrepaired]

/-- Settings with three offending fields, one of which is repaired. The level is a no-break
space. -/
theorem repaired_port_leaves_other_reports :
    let s : Settings :=
      { server := { port := 0 }
        tracking := { staleTimeoutSecs := 86401 }
        logging := { level := "\u00a0" } }
    let s' : Settings := { s with server := { port := 8080 } }
    (∀ g, g ≠ .port → s'.value g = s.value g) ∧ ¬s'.Offends .port ∧
      Reports s.validate
        [⟨.port, .zero⟩, ⟨.staleTimeout, .above 86400⟩, ⟨.logLevel, .blank⟩] ∧
      Reports s'.validate [⟨.staleTimeout, .above 86400⟩, ⟨.logLevel, .blank⟩] := by
  intro s s'
  have hothers : ∀ g, g ≠ .port → s'.value g = s.value g := by
    intro g hg
    cases g <;> first | rfl | exact absurd rfl hg
  have hrepaired : ¬s'.Offends .port := by decide
  have hreports : Reports s.validate
      [⟨.port, .zero⟩, ⟨.staleTimeout, .above 86400⟩, ⟨.logLevel, .blank⟩] :=
    reports_iff.mpr (by decide +kernel)
  obtain ⟨-, -, -, hrepair⟩ := validate_reports_offences_iff s
  exact ⟨hothers, hrepaired, hreports, hrepair s' .port hothers hrepaired _ hreports⟩

/-- A blank unit of distances offends and is accepted all the same: it is not reported, alone or
beside another field. -/
theorem blank_distanceUnit_accepted :
    let s : Settings := { display := { distanceUnit := "" } }
    let s' : Settings := { s with server := { port := 0 } }
    s.offences = [.distanceUnit] ∧ s.validate = .ok () ∧
      ¬(s.validate = .ok () ↔ ∀ f, ¬s.Offends f) ∧
      s'.offences = [.port, .distanceUnit] ∧
      s'.validate = .error (.invalid ⟨.port, .zero⟩) := by
  intro s s'
  have hunit : s.Offends .distanceUnit := by decide
  have haccepted : s.validate = .ok () := by decide +kernel
  refine ⟨by decide, haccepted, ?_, by decide, by decide +kernel⟩
  exact fun h => h.mp haccepted .distanceUnit hunit

end NearbyBeacons.Settings
