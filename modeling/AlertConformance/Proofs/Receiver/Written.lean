/-
AlertConformance.Proofs.Receiver.Written — notifications written as JSON.

An alert is posted as an object with its labels, annotations and times.
Without a status the receiver tells from its end whether it resolved; for a
notification whose end is evident in this sense, reading undoes writing.

* `Labels.WrittenAs`, `Notification.WrittenAs` — the objects that write a
  label set and a notification.
* `Notification.Evident` — the end tells whether the alert resolved.
* `Labels.exists_labelsOf`, `Notification.WrittenAs.read` — what is read says
  the same as what was written.
-/
import AlertConformance.Payload.Notification
import AlertConformance.Proofs.Payload.Escapes
import AlertConformance.Proofs.Schedule.Replay
import AlertConformance.Proofs.Time.Timestamp

namespace AlertConformance

/-! ## Members -/

@[simp] theorem Json.member_nil (name : String) : Json.member name [] = .null := rfl

@[simp] theorem Json.member_cons (name other : String) (value : Json)
    (rest : List (Text × Json)) :
    Json.member name ((other, value) :: rest) =
      if other = name then value else Json.member name rest := by
  by_cases h : other = name <;> simp [Json.member, Keyed.find?, Text.ofString_inj, h]

/-! ## Label sets -/

/-- An object with the pairs of a label set, in any order. -/
def Labels.WrittenAs (labels : Labels) (value : Json) : Prop :=
  ∃ members, value = .object members ∧
    members.Perm (labels.entries.map fun (name, value) => ((name : Text), .text (value : Text)))

@[simp] theorem Payload.text_text [NestingLimits] (value : Text) :
    Payload.text (.text value) = .ok value.toString := rfl

/-- Reading a label set undoes writing it. -/
theorem Labels.exists_labelsOf [NestingLimits] {labels : Labels} {members : List (Text × Json)}
    (h : members.Perm
      (labels.entries.map fun (name, value) => ((name : Text), .text (value : Text)))) :
    ∃ read, Payload.labelsOf members = .ok read ∧ labels.same read = true := by
  have hentries : List.Forall₂
      (fun (member : Text × Json) pair =>
        (do return (member.1.toString, ← Payload.text member.2)) = (.ok pair : Result _))
      (labels.entries.map fun (name, value) => ((name : Text), .text (value : Text)))
      labels.entries := by
    rw [List.forall₂_map_left_iff, List.forall₂_same]
    rintro ⟨name, value⟩ -
    simp [Text.toString_ofString, pure, Except.pure, bind, Except.bind]
  obtain ⟨pairs, hread, hperm⟩ := List.perm_comp_forall₂ h hentries
  have hnodup : (Keyed.keys pairs).Nodup :=
    (hperm.map Prod.fst).nodup_iff.mpr labels.distinct
  refine ⟨.ofList pairs, bind_eq_ok_iff.mpr ⟨pairs, mapM_eq_ok_iff.mpr hread, rfl⟩, ?_⟩
  rw [Labels.same_iff_perm, Labels.ofList]
  exact hperm.symm.trans (.of_eq (Keyed.ofList_eq_self hnodup).symm)

/-! ## Fields of an alert -/

namespace Payload

variable [NestingLimits] {entry : Json}

theorem labelMembers_eq_ok_iff {labels : Json} {pairs : List (Text × Json)} :
    labelMembers entry labels = .ok pairs ↔
      ∃ first rest, labels = .object (first :: rest) ∧ pairs = first :: rest := by
  unfold labelMembers
  split
  · simp [eq_comm]
  · rename_i hnone
    refine iff_of_false refuse_ne_ok ?_
    rintro ⟨first, rest, hlabels, -⟩
    exact hnone first rest hlabels

theorem startTime_eq_ok_iff {startsAt : Json} {time : Int} :
    startTime entry startsAt = .ok time ↔ timestamp startsAt = .ok (some time) := by
  rw [startTime, bind_eq_ok_iff]
  constructor
  · rintro ⟨found, hfound, h⟩
    cases found with
    | some found => exact Except.ok.inj h ▸ hfound
    | none => exact absurd h refuse_ne_ok
  · exact fun h => ⟨some time, h, rfl⟩

theorem noteMembers_eq_ok_iff {annotations : Json} {notes : List (Text × Json)} :
    noteMembers entry annotations = .ok notes ↔
      annotations.isVacant = true ∧ notes = [] ∨ annotations = .object notes := by
  unfold noteMembers
  cases hvacant : annotations.isVacant with
  | true =>
    simp only [if_true, Except.ok.injEq, true_and]
    refine ⟨fun h => .inl h.symm, ?_⟩
    rintro (rfl | rfl)
    · rfl
    · rw [Json.isVacant, List.isEmpty_iff] at hvacant
      exact hvacant.symm
  | false =>
    simp only [Bool.false_eq_true, if_false, false_and, false_or]
    cases annotations with
    | object members => simp
    | _ => simp [refuse_ne_ok]

end Payload

/-! ## Notifications -/

/-- The end of a notification tells whether its alert resolved: a resolved
alert ended by the time of its arrival, and any other one did not. -/
def Notification.Evident (notification : Notification) : Prop :=
  Payload.isResolved .null notification.endsAt notification.receivedAt = notification.resolved

/-- An object that writes a notification: its label sets, no status, and
its times in any form that is understood. Where it comes from may be told
by anything that has a text, and further members do not matter. -/
structure Notification.WrittenAs [NestingLimits] (notification : Notification)
    (members : List (Text × Json)) : Prop where
  labels : notification.labels.WrittenAs (Json.member "labels" members)
  annotations : notification.annotations.WrittenAs (Json.member "annotations" members)
  status : Json.member "status" members = .null
  startsAt : Payload.timestamp (Json.member "startsAt" members) = .ok (some notification.startsAt)
  endsAt : Payload.timestamp (Json.member "endsAt" members) = .ok notification.endsAt
  generatorUrl : (Json.member "generatorURL" members).HasText

variable [NestingLimits] {notification : Notification} {members : List (Text × Json)}

/-- **Reading** an alert that is written without a status gives the
notification back, when it has labels and its end is evident. -/
theorem Notification.WrittenAs.read (h : notification.WrittenAs members)
    (hlabels : notification.labels.isEmpty = false) (hevident : notification.Evident) :
    ∃ read, Payload.notification notification.receivedAt (.object members) = .ok read ∧
      notification.Same read := by
  obtain ⟨pairs, hpairs, hlabelPerm⟩ := h.labels
  obtain ⟨notes, hnotes, hnotePerm⟩ := h.annotations
  cases pairs with
  | nil =>
    -- an empty object writes no labels
    rw [Labels.isEmpty, List.map_eq_nil_iff.mp hlabelPerm.nil_eq.symm] at hlabels
    cases hlabels
  | cons first rest =>
    obtain ⟨labels, hlabelsOf, hsame⟩ := Labels.exists_labelsOf hlabelPerm
    obtain ⟨annotations, hnotesOf, hsame'⟩ := Labels.exists_labelsOf hnotePerm
    obtain ⟨generatorUrl, hurl⟩ := Payload.exists_textOr_iff.mpr h.generatorUrl
    refine ⟨{ notification with labels, annotations, generatorUrl }, ?_, hsame, hsame', rfl, rfl,
      rfl, rfl⟩
    have hlabelMembers : Payload.labelMembers (.object members) (Json.member "labels" members) =
        .ok (first :: rest) := Payload.labelMembers_eq_ok_iff.mpr ⟨first, rest, hpairs, rfl⟩
    rw [Notification.Evident] at hevident
    simp only [Payload.notification, Payload.object, hlabelMembers,
      Payload.startTime_eq_ok_iff.mpr h.startsAt, Payload.noteMembers_eq_ok_iff.mpr (.inr hnotes),
      h.endsAt, h.status, hevident, hlabelsOf, hnotesOf, hurl, bind, Except.bind, pure,
      Except.pure]

/-! ## Writing -/

/-- An object with the pairs of a label set in their order. -/
def Labels.toJson (labels : Labels) : Json :=
  .object (labels.entries.map fun (name, value) => ((name : Text), .text (value : Text)))

/-- An alert with the label sets of a notification and times as they are
given. -/
def Notification.toMembers (notification : Notification) (startsAt endsAt : String) :
    List (Text × Json) := [
  ("labels", notification.labels.toJson),
  ("annotations", notification.annotations.toJson),
  ("startsAt", .text startsAt),
  ("endsAt", .text endsAt)]

/-- A notification can be written when its times can. -/
theorem Notification.writtenAs_toMembers {startsAt endsAt : String}
    (hstart : Payload.timestamp (.text startsAt) = .ok (some notification.startsAt))
    (hend : Payload.timestamp (.text endsAt) = .ok notification.endsAt) :
    notification.WrittenAs (notification.toMembers startsAt endsAt) := by
  constructor
  case labels => exact ⟨_, by simp [toMembers, Labels.toJson], .rfl⟩
  case annotations => exact ⟨_, by simp [toMembers, Labels.toJson], .rfl⟩
  case status => simp [toMembers]
  case startsAt => simpa [toMembers] using hstart
  case endsAt => simpa [toMembers] using hend
  case generatorUrl => simp [toMembers]

end AlertConformance
