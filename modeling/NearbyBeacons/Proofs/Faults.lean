import NearbyBeacons.Beacon
import NearbyBeacons.Proofs.Text.Blank
import NearbyBeacons.Proofs.Text.Joined
/-!
# The summary of frame faults

A summary is the lines of the messages that are set, and all of it is trimmed at once. Every line
begins with a bullet, which is not blank, so that trimming leaves the front as it is and at the
end goes no further back than to the last bullet (`summary_eq`). Messages without line breaks can
therefore be read back from the lines of the summary (`summary_reads_back`).
-/

namespace NearbyBeacons.FrameFaults

open Text (IsTrimmed isBlank isTrimmed_iff lines trim trimEnd trimStart)

/-- A message behind a bullet. -/
def bulleted (message : String) : List Char := '●' :: ' ' :: message.toList

theorem line_eq (message : String) : line message = bulleted message ++ ['\n'] := rfl

/-- The messages that are set, in the order of the fields. -/
theorem messages_eq (f : FrameFaults) :
    f.messages =
      f.noServiceData.toList ++ f.shortServiceData.toList ++ f.unknownFrameType.toList := by
  obtain ⟨noServiceData, shortServiceData, unknownFrameType⟩ := f
  cases noServiceData <;> cases shortServiceData <;> cases unknownFrameType <;> rfl

theorem messages_eq_nil_iff {f : FrameFaults} :
    f.messages = [] ↔
      f.noServiceData = none ∧ f.shortServiceData = none ∧ f.unknownFrameType = none := by
  rw [messages_eq, List.append_eq_nil_iff, List.append_eq_nil_iff, Option.toList_eq_nil_iff,
    Option.toList_eq_nil_iff, Option.toList_eq_nil_iff, and_assoc]

/-! ### Trimming -/

/-- The lines of messages are not blank in front. -/
theorem trimStart_lines (messages : List String) :
    trimStart (messages.flatMap line) = messages.flatMap line := by
  cases messages with
  | nil => rfl
  | cons message messages => exact Text.trimStart_cons (by decide) _

theorem toList_summary (f : FrameFaults) :
    f.summary.toList = trimEnd (f.messages.flatMap line) := by
  rw [summary, String.toList_ofList, trim, trimStart_lines]

theorem trimEnd_bulleted (message : String) :
    trimEnd (bulleted message) = '●' :: trimEnd (' ' :: message.toList) :=
  Text.trimEnd_cons (by decide) _

/-- A summary is that of all lines but the last as they are, and of the last without the blank
characters that it ends with. -/
theorem summary_eq {f : FrameFaults} {front : List String} {last : String}
    (h : f.messages = front ++ [last]) :
    f.summary.toList = front.flatMap line ++ trimEnd (bulleted last) := by
  -- the line break goes with the blank characters of the message, and the bullet stays
  have hbreak : ∀ c ∈ ['\n'], isBlank c = true := List.forall_mem_singleton.mpr (by decide)
  have hline : trimEnd (line last) = trimEnd (bulleted last) := by
    rw [line_eq, Text.trimEnd_append_blank _ hbreak]
  have hleft : trimEnd (line last) ≠ [] := by
    rw [hline, trimEnd_bulleted]
    exact List.cons_ne_nil _ _
  rw [toList_summary, h, List.flatMap_append, List.flatMap_singleton, Text.trimEnd_append _ hleft,
    hline]

/-- A summary is empty when there is nothing to say. -/
theorem summary_eq_empty_iff {f : FrameFaults} : f.summary = "" ↔ f.messages = [] := by
  constructor
  · intro h
    by_contra hne
    have hsummary := summary_eq (List.dropLast_append_getLast hne).symm
    rw [h, trimEnd_bulleted] at hsummary
    exact absurd hsummary.symm (List.append_ne_nil_of_right_ne_nil _ (List.cons_ne_nil _ _))
  · intro h
    rw [summary, h]
    rfl

/-- A summary shows something unless it is empty. -/
theorem not_isBlankText_summary {f : FrameFaults} (h : f.summary ≠ "") :
    Text.isBlankText f.summary = false := by
  have hsummary := summary_eq (List.dropLast_append_getLast (mt summary_eq_empty_iff.mpr h)).symm
  apply Text.isBlankText_eq_false (c := '●')
  · rw [hsummary, trimEnd_bulleted]
    exact List.mem_append_right _ List.mem_cons_self
  · decide

/-! ### Lines -/

/-- Without line breaks in the messages, the lines of a summary are those that it was made of. -/
theorem lines_summary {f : FrameFaults} {front : List String} {last : String}
    (h : f.messages = front ++ [last]) (hbreak : ∀ message ∈ f.messages, '\n' ∉ message.toList) :
    lines f.summary.toList = front.map bulleted ++ [trimEnd (bulleted last)] := by
  have hbulleted : ∀ message ∈ f.messages, '\n' ∉ bulleted message := by
    intro message hmem
    simp [bulleted, hbreak message hmem]
  have hfront : front.flatMap line = (front.map bulleted).flatMap (· ++ ['\n']) := by
    rw [List.flatMap_map]
    rfl
  rw [summary_eq h, hfront]
  apply Text.lines_flatMap_append
  · intro text htext
    obtain ⟨message, hmem, rfl⟩ := List.mem_map.mp htext
    exact hbulleted message (h ▸ List.mem_append_left _ hmem)
  · intro hmem
    have hlast : last ∈ f.messages := h ▸ List.mem_append_right _ (List.mem_singleton_self last)
    exact hbulleted last hlast ((List.rdropWhile_prefix isBlank _).mem hmem)
  · rw [trimEnd_bulleted]
    exact List.cons_ne_nil _ _

/-- **A summary can be read back.** If no message that is set has a line break of its own, the
summary has one line for each, in the order of the fields. All lines but the last are bulleted
messages as they are, and the last is one without the blank characters that it ends with.
Whatever the messages are, trimming removes nothing in front; it leaves all lines before the last
as they are, and the last one with its bullet; and a summary of no messages is empty. -/
theorem summary_reads_back (f : FrameFaults) :
    let messages :=
      f.noServiceData.toList ++ f.shortServiceData.toList ++ f.unknownFrameType.toList
    ((∀ message ∈ messages, '\n' ∉ message.toList) →
        (lines f.summary.toList).length = messages.length) ∧
      f.summary.toList <+: messages.flatMap line ∧
      (messages = [] → f.summary = "") ∧
      ∀ front last, messages = front ++ [last] → ∃ rest,
        IsTrimmed (bulleted last) ('●' :: rest) ∧
          f.summary.toList = front.flatMap line ++ '●' :: rest ∧
          ((∀ message ∈ messages, '\n' ∉ message.toList) →
            lines f.summary.toList = front.map bulleted ++ ['●' :: rest]) := by
  intro messages
  have hmessages : f.messages = messages := messages_eq f
  refine ⟨?_, ?_, ?_, ?_⟩
  · intro hbreak
    rcases List.eq_nil_or_concat' messages with hnil | ⟨front, last, hsplit⟩
    · rw [summary_eq_empty_iff.mpr (hmessages.trans hnil), hnil]
      rfl
    · rw [lines_summary (hmessages.trans hsplit) (hmessages ▸ hbreak), hsplit]
      simp
  · rw [toList_summary, hmessages]
    exact List.rdropWhile_prefix isBlank _
  · intro hnil
    exact summary_eq_empty_iff.mpr (hmessages.trans hnil)
  · intro front last hsplit
    have hlast := hmessages.trans hsplit
    refine ⟨trimEnd (' ' :: last.toList), ?_, ?_, ?_⟩
    · rw [← trimEnd_bulleted, isTrimmed_iff]
    · rw [summary_eq hlast, trimEnd_bulleted]
    · intro hbreak
      rw [lines_summary hlast (hmessages ▸ hbreak), trimEnd_bulleted]

/-- Blank messages keep their lines: the first two as they are, of the last the bullet alone. -/
theorem summary_of_blank_messages :
    let f : FrameFaults := ⟨some "cut ", some "", some " \t"⟩
    (∀ message ∈ f.messages, '\n' ∉ message.toList) ∧
      lines f.summary.toList = ["● cut ".toList, "● ".toList, "●".toList] := by
  intro f
  have hbreak : ∀ message ∈ f.messages, '\n' ∉ message.toList := by decide
  obtain ⟨-, -, -, hsplit⟩ := summary_reads_back f
  obtain ⟨rest, htrimmed, -, hlines⟩ := hsplit ["cut ", ""] " \t" rfl
  have hrest : rest = [] := by
    have hbullet := isTrimmed_iff.mp htrimmed
    exact List.tail_eq_of_cons_eq (hbullet.trans (by decide +kernel : _ = ['●']))
  refine ⟨hbreak, ?_⟩
  rw [hlines hbreak, hrest]
  decide +kernel

end NearbyBeacons.FrameFaults
