import Mathlib.Data.List.Basic
import NearbyBeacons.Proofs.IpAddress
import NearbyBeacons.Proofs.Settings.FileTree
import NearbyBeacons.Proofs.Settings.Layers
import NearbyBeacons.Proofs.Settings.Sections
import NearbyBeacons.Settings.Load
/-!
# Settings saved and loaded again

Settings that were saved are the settings that are loaded, if they are valid, and else the
error that says what is wrong with them (`save_then_loadFrom`). Nothing but a number beyond the
signed words keeps settings from being written.
-/

namespace NearbyBeacons

/-- No variable holds a setting: no name in lower case starts like those that do. -/
def Environment.HasNoSettings (env : Environment) : Prop :=
  ∀ entry ∈ env, ¬namespaceOfSettings <+: Text.lowercase entry.1.toList

theorem Environment.HasNoSettings.settings_eq_nil {env : Environment} (h : env.HasNoSettings) :
    env.settings = [] := by
  rw [settings, List.filterMap_eq_nil_iff]
  rintro ⟨name, value⟩ hmem
  have hname : (namespaceOfSettings.isPrefixOf (Text.lowercase name.toList)) = false := by
    rw [← Bool.not_eq_true, List.isPrefixOf_iff_prefix]
    exact h _ hmem
  simp [settingKey?, hname]

namespace Settings

open Toml

/-! ### The written sections -/

/-- The four sections with their fields. -/
def sections (s : Settings) : List Section :=
  [⟨"server", [⟨"host", .string (String.ofList s.server.host.text)⟩,
      ⟨"port", .number s.server.port.toNat⟩]⟩,
    ⟨"tracking", [⟨"stale_timeout_secs", .number s.tracking.staleTimeoutSecs.toNat⟩,
      ⟨"expiry_interval_secs", .number s.tracking.expiryIntervalSecs.toNat⟩]⟩,
    ⟨"display", [⟨"distance_unknown", .string s.display.distanceUnknown⟩,
      ⟨"tx_power_unknown", .string s.display.txPowerUnknown⟩,
      ⟨"distance_unit", .string s.display.distanceUnit⟩]⟩,
    ⟨"logging", [⟨"level", .string s.logging.level⟩,
      ⟨"production", .switch s.logging.production⟩]⟩]

theorem text_eq_documentText (s : Settings) : s.text = documentText s.sections := by
  have hswitch : ∀ b : Bool, (if b then ['t', 'r', 'u', 'e'] else ['f', 'a', 'l', 's', 'e']) =
      (Scalar.switch b).text := by
    rintro (_ | _) <;> rfl
  simp [text, documentText, sections, sectionTexts, Section.text, stringLine, numberLine, hswitch,
    Scalar.text]

theorem nodup_sections (s : Settings) : (s.sections.map Section.name).Nodup :=
  (by decide : ["server", "tracking", "display", "logging"].Nodup)

/-- Settings that can be written are written as well-formed sections. -/
theorem wellFormed_sections {s : Settings} (h : s.isWritable = true) :
    ∀ sec ∈ s.sections, sec.WellFormed := by
  simp only [isWritable, Bool.and_eq_true, decide_eq_true_eq] at h
  have hport : s.server.port.toNat < Decimal.signedSize :=
    Nat.lt_trans s.server.port.toNat_lt (by decide)
  simp only [sections, List.forall_mem_cons]
  refine ⟨?server, ?tracking, ?display, ?logging, List.forall_mem_nil _⟩
  case server =>
    exact
      { isPlainName := (by decide : IsPlainName "server")
        fields_isPlainName := (by decide : ∀ name ∈ ["host", "port"], IsPlainName name)
        fits := by simp [Scalar.Fits, hport]
        nodup := (by decide : ["host", "port"].Nodup) }
  case tracking =>
    exact
      { isPlainName := (by decide : IsPlainName "tracking")
        fields_isPlainName := (by decide :
          ∀ name ∈ ["stale_timeout_secs", "expiry_interval_secs"], IsPlainName name)
        fits := by simp [Scalar.Fits, h]
        nodup := (by decide : ["stale_timeout_secs", "expiry_interval_secs"].Nodup) }
  case display =>
    exact
      { isPlainName := (by decide : IsPlainName "display")
        fields_isPlainName := (by decide :
          ∀ name ∈ ["distance_unknown", "tx_power_unknown", "distance_unit"], IsPlainName name)
        fits := by simp [Scalar.Fits]
        nodup := (by decide : ["distance_unknown", "tx_power_unknown", "distance_unit"].Nodup) }
  case logging =>
    exact
      { isPlainName := (by decide : IsPlainName "logging")
        fields_isPlainName := (by decide : ∀ name ∈ ["level", "production"], IsPlainName name)
        fits := by simp [Scalar.Fits]
        nodup := (by decide : ["level", "production"].Nodup) }

/-! ### Loading the text -/

theorem toUInt16?_toNat (n : UInt16) : Loose.toUInt16? (.integer n.toNat) = some n := by
  have hlt : n.toNat < 65536 := n.toNat_lt
  simp [Loose.toUInt16?, Loose.toNat?, hlt]

theorem toUInt64?_toNat (n : UInt64) : Loose.toUInt64? (.integer n.toNat) = some n := by
  simp [Loose.toUInt64?, Loose.toNat?]

theorem toAddress?_text (a : IpAddress) :
    Loose.toAddress? (.string (String.ofList a.text)) = some a := by
  simp [Loose.toAddress?, Loose.toText?, IpAddress.parse?_text]

/-- The sections make the settings again. -/
theorem ofLoose?_sections (s : Settings) : ofLoose? (.table (sourceOf s.sections)) = some s := by
  simp [ofLoose?, sourceOf, sections, Section.loose, Scalar.loose, Loose.field?, List.lookup_cons,
    ServerSettings.ofLoose?, TrackingSettings.ofLoose?, Labels.ofLoose?, LoggingSettings.ofLoose?,
    toUInt16?_toNat, toUInt64?_toNat, toAddress?_text, Loose.toText?, Loose.toBool?]

/-- Without a variable that holds a setting, the text alone decides. -/
theorem ofText_text {s : Settings} (h : s.isWritable = true) {env : Environment}
    (henv : env.HasNoSettings) : ofText s.text env = s.validate.map fun _ => s := by
  have hsections := wellFormed_sections h
  have hroot : (do ((← (Loose.table []).layer (sourceOf s.sections)).layer env.settings)) =
      (.ok (.table (sourceOf s.sections)) : Except IndexFault Loose) := by
    rw [layer_sourceOf hsections s.nodup_sections, henv.settings_eq_nil]
    rfl
  rw [ofText, text_eq_documentText, read?_documentText hsections s.nodup_sections,
    Option.bind_some, ofTable?_sections hsections]
  simp only [ofSources]
  rw [hroot]
  simp only [Except.mapError, bind, Except.bind, ofLoose?_sections]
  cases s.validate <;> rfl

/-! ### Saving and loading -/

/-- Where a file can be written, only the settings can be in the way of saving them. -/
theorem save_eq {s : Settings} {t : FileTree} {path : String} (h : t.IsWritable path) :
    (s.isWritable = false ∧ s.save t path = .error .unwritable) ∨
      s.isWritable = true ∧ ∃ t', s.save t path = .ok t' ∧
        t'.find? path = some (.file (String.ofList s.text)) := by
  obtain ⟨around, hmake, t₀, hwrite⟩ := h
  rw [save, hmake]
  simp only
  cases hs : s.isWritable with
  | false => exact .inl ⟨rfl, rfl⟩
  | true =>
    obtain ⟨t', hwrite'⟩ := FileTree.exists_write? hwrite (String.ofList s.text)
    right
    rw [if_pos rfl, hwrite']
    exact ⟨rfl, t', rfl, FileTree.find?_of_write? hwrite'⟩

/-- The numbers among the settings. -/
def numbers (s : Settings) : List Nat :=
  [s.server.port.toNat, s.tracking.staleTimeoutSecs.toNat, s.tracking.expiryIntervalSecs.toNat]

theorem isWritable_iff {s : Settings} :
    s.isWritable = true ↔ ∀ n ∈ s.numbers, n ≤ 2 ^ 63 - 1 := by
  have hport : s.server.port.toNat ≤ 2 ^ 63 - 1 := by
    have hlt : s.server.port.toNat < 65536 := s.server.port.toNat_lt
    omega
  have hsigned : ∀ n, n < Decimal.signedSize ↔ n ≤ 2 ^ 63 - 1 := by
    intro n
    rw [Decimal.signedSize]
    omega
  rw [isWritable, Bool.and_eq_true, decide_eq_true_eq, decide_eq_true_eq, hsigned, hsigned]
  simp only [numbers, List.forall_mem_cons]
  exact ⟨fun h => ⟨hport, h.1, h.2, List.forall_mem_nil _⟩, fun h => ⟨h.2.1, h.2.2.1⟩⟩

/-- Settings are not saved exactly if one of their numbers is beyond the signed words.
Those that were saved load as themselves if they are valid, and else fail to load for the reason
that makes them invalid. -/
theorem save_then_loadFrom (s : Settings) {t : FileTree} {path : String} {env : Environment}
    (hpath : t.IsWritable path) (henv : env.HasNoSettings) :
    (s.save t path = .error .unwritable ↔ ∃ n ∈ s.numbers, 2 ^ 63 - 1 < n) ∧
      ((∀ n ∈ s.numbers, n ≤ 2 ^ 63 - 1) → ∃ t', s.save t path = .ok t' ∧
        (s.validate = .ok () → loadFrom t' path env = .ok s) ∧
        ∀ e, s.validate = .error e → loadFrom t' path env = .error e) := by
  have hnumbers : (∃ n ∈ s.numbers, 2 ^ 63 - 1 < n) ↔ s.isWritable = false := by
    rw [← Bool.not_eq_true, isWritable_iff]
    simp only [not_forall, Nat.not_le, exists_prop]
  rw [← isWritable_iff, hnumbers]
  rcases save_eq (s := s) hpath with ⟨hs, hsave⟩ | ⟨hs, t', hsave, hfind⟩
  · rw [hsave, hs]
    simp
  · have hload : loadFrom t' path env = s.validate.map fun _ => s := by
      rw [loadFrom, hfind]
      simp only
      rw [String.toList_ofList, ofText_text hs henv]
    refine ⟨by simp [hsave, hs], fun _ => ⟨t', hsave, ?_, ?_⟩⟩
    · intro hvalid
      rw [hload, hvalid]
      rfl
    · intro e hinvalid
      rw [hload, hinvalid]
      rfl

/-- A log filter with quotes of both kinds, three of them in a row, and a line end comes back
from a file in a new folder. -/
theorem save_then_loadFrom_of_quotes :
    ∃ t', save { logging := { level := "a\"\'\'\'\n\\\"" } } ⟨[]⟩ "nested/config.toml" = .ok t' ∧
      loadFrom t' "nested/config.toml" [("HOME", "/")] =
        .ok { logging := { level := "a\"\'\'\'\n\\\"" } } := by
  have hpath : FileTree.IsWritable ⟨[]⟩ "nested/config.toml" := ⟨_, rfl, _, rfl⟩
  have henv : Environment.HasNoSettings [("HOME", "/")] := by
    unfold Environment.HasNoSettings
    decide
  obtain ⟨t', hsave, hvalid, -⟩ :=
    (save_then_loadFrom { logging := { level := "a\"\'\'\'\n\\\"" } } hpath henv).2 (by decide)
  exact ⟨t', hsave, hvalid (by decide)⟩

end Settings

end NearbyBeacons
