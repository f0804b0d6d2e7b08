/-
AlertConformance.Proofs.Payload.Pages — reading what an engine writes.

An engine writes its alerts, its rule groups and its query results as JSON.
Whatever the order of members and labels, however times and numbers are
written, and whatever rules of other kinds stand among the alerting ones,
reading a page gives back what was written: no entry is lost, moved or
merged with another one.

* `Labels.InField`, `Alert.WrittenAs`, `RuleSnapshot.WrittenAs`, … — the
  objects that write a record.
* `AmongOthers` — alerting rules with other objects between them.
* `Alert.Same`, `RuleSnapshot.Same`, … — records that say the same.
* `Alert.WrittenAs.read`, … — one record is read back.
* `Payload.pages_read` — the three pages, and the groups found by name.
-/
import AlertConformance.Proofs.Payload.Escapes
import AlertConformance.Proofs.Receiver.Written

namespace AlertConformance

/-! ## Records that say the same -/

structure Alert.Same (a b : Alert) : Prop where
  labels : a.labels.same b.labels = true
  annotations : a.annotations.same b.annotations = true
  state : a.state = b.state
  value : a.value = b.value
  activeAt : a.activeAt = b.activeAt

structure RuleSnapshot.Same (a b : RuleSnapshot) : Prop where
  name : a.name = b.name
  query : a.query = b.query
  state : a.state = b.state
  labels : a.labels.same b.labels = true
  annotations : a.annotations.same b.annotations = true
  duration : a.duration = b.duration
  alerts : List.Forall₂ Alert.Same a.alerts b.alerts
  health : a.health = b.health
  kind : a.kind = b.kind

structure GroupSnapshot.Same (a b : GroupSnapshot) : Prop where
  name : a.name = b.name
  interval : a.interval = b.interval
  rules : List.Forall₂ RuleSnapshot.Same a.rules b.rules

structure QuerySample.Same (a b : QuerySample) : Prop where
  metric : a.metric.same b.metric = true
  timestamp : a.timestamp = b.timestamp
  value : a.value = b.value

/-! ## Lists of objects -/

/-- Objects that write the elements of a list, in order. -/
def Json.Lists {α : Type} (writes : α → List (Text × Json) → Prop) : List α → List Json → Prop :=
  List.Forall₂ fun a value => ∃ members, value = .object members ∧ writes a members

theorem Payload.mapM_of_lists {α β : Type} {writes : α → List (Text × Json) → Prop}
    {read : Json → Result β} {same : α → β → Prop}
    (hread : ∀ a members, writes a members → ∃ b, read (.object members) = .ok b ∧ same a b)
    {as : List α} {entries : List Json} (h : Json.Lists writes as entries) :
    ∃ bs, entries.mapM read = .ok bs ∧ List.Forall₂ same as bs := by
  induction h with
  | nil => exact ⟨[], rfl, .nil⟩
  | cons hhead _ ih =>
    obtain ⟨members, rfl, hwrites⟩ := hhead
    obtain ⟨b, hb, hsame⟩ := hread _ _ hwrites
    obtain ⟨bs, hbs, hrest⟩ := ih
    exact ⟨b :: bs, mapM_eq_ok_iff.mpr (.cons hb (mapM_eq_ok_iff.mp hbs)), .cons hsame hrest⟩

/-! ## Groups by name -/

namespace Payload

/-- No group is found when none has the name. -/
theorem findGroup?_eq_none_iff {groups read : List GroupSnapshot}
    (h : List.Forall₂ GroupSnapshot.Same groups read) (name : String) :
    findGroup? name read = none ↔ ∀ group ∈ groups, group.name ≠ name := by
  induction h with
  | nil => simp [findGroup?]
  | @cons group found groups read hhead _ ih =>
    rw [List.forall_mem_cons, ← ih, hhead.name]
    by_cases hname : found.name = name <;> simp [findGroup?, hname]

/-- The group found is the first one that has the name. -/
theorem findGroup?_of_first {before after read : List GroupSnapshot} {group : GroupSnapshot}
    (h : List.Forall₂ GroupSnapshot.Same (before ++ group :: after) read)
    (hfirst : ∀ earlier ∈ before, earlier.name ≠ group.name) :
    ∃ found, findGroup? group.name read = some found ∧ group.Same found := by
  induction before generalizing read with
  | nil =>
    obtain ⟨found, rest, hsame, -, rfl⟩ := List.forall₂_cons_left_iff.mp h
    exact ⟨found, List.find?_cons_of_pos (by simpa using hsame.name.symm), hsame⟩
  | cons earlier before ih =>
    obtain ⟨other, rest, hother, hrest, rfl⟩ := List.forall₂_cons_left_iff.mp h
    obtain ⟨hdiffers, hbefore⟩ := List.forall_mem_cons.mp hfirst
    obtain ⟨found, hfound, hsame⟩ := ih hrest hbefore
    refine ⟨found, ?_, hsame⟩
    rw [hother.name] at hdiffers
    rw [findGroup?, List.find?_cons_of_neg (by simpa using hdiffers)]
    exact hfound

end Payload

section Pages

variable [NestingLimits]

/-! ## Records as JSON -/

/-- A label set in a field: an object with its pairs, or nothing when there
are none. -/
def Labels.InField (labels : Labels) (value : Json) : Prop :=
  labels.WrittenAs value ∨ labels.isEmpty = true ∧ value = .null

/-- A number in a field, in any form that is understood. -/
def Binary64.WrittenAs (x : Binary64) (value : Json) : Prop :=
  ∀ fault, Payload.number fault value = .ok x

structure Alert.WrittenAs (alert : Alert) (members : List (Text × Json)) : Prop where
  labels : alert.labels.InField (Json.member "labels" members)
  annotations : alert.annotations.InField (Json.member "annotations" members)
  state : Json.member "state" members = .text alert.state
  value : Json.member "value" members = .text alert.value
  activeAt : Payload.timestamp (Json.member "activeAt" members) = .ok alert.activeAt

structure RuleSnapshot.WrittenAs (rule : RuleSnapshot) (members : List (Text × Json)) : Prop where
  kind : rule.kind = Payload.alertingKind
  type : Json.member "type" members = .text rule.kind
  name : Json.member "name" members = .text rule.name
  query : Json.member "query" members = .text rule.query
  state : Json.member "state" members = .text rule.state
  health : Json.member "health" members = .text rule.health
  labels : rule.labels.InField (Json.member "labels" members)
  annotations : rule.annotations.InField (Json.member "annotations" members)
  duration : rule.duration.WrittenAs (Payload.given "duration" members)
  alerts : ∃ entries, Json.member "alerts" members = .array entries ∧
    Json.Lists Alert.WrittenAs rule.alerts entries

/-- Objects that write alerting rules, in order, with objects of other types
anywhere between them. -/
inductive AmongOthers : List RuleSnapshot → List Json → Prop where
  | nil : AmongOthers [] []
  | rule {rule : RuleSnapshot} {members : List (Text × Json)} {rules : List RuleSnapshot}
    {entries : List Json} : rule.WrittenAs members → AmongOthers rules entries →
    AmongOthers (rule :: rules) (.object members :: entries)
  | other {members : List (Text × Json)} {rules : List RuleSnapshot} {entries : List Json} :
    Payload.isAlerting members = false → AmongOthers rules entries →
    AmongOthers rules (.object members :: entries)

structure GroupSnapshot.WrittenAs (group : GroupSnapshot) (members : List (Text × Json)) :
    Prop where
  name : Json.member "name" members = .text group.name
  interval : group.interval.WrittenAs (Payload.given "interval" members)
  rules : ∃ entries, Json.member "rules" members = .array entries ∧
    AmongOthers group.rules entries

structure QuerySample.WrittenAs (sample : QuerySample) (members : List (Text × Json)) : Prop where
  metric : sample.metric.InField (Json.member "metric" members)
  point : ∃ time reading, Json.member "value" members = .array [time, reading] ∧
    Payload.milliseconds time = .ok sample.timestamp ∧ sample.value.WrittenAs reading

/-! ## One field -/

namespace Payload

variable {members : List (Text × Json)} {value : Json}

theorem textOr_of_member {name text : String}
    (h : Json.member name members = .text text) : textOr name members = .ok text := by
  rw [Json.member] at h
  cases hfind : Keyed.find? (name : Text) members with
  | none =>
    rw [hfind] at h
    cases h
  | some value =>
    rw [hfind, Option.getD_some] at h
    simp [textOr, hfind, h, Text.toString_ofString]

theorem labelSet_of_inField {labels : Labels} (h : labels.InField value) (context : String) :
    ∃ read, labelSet context value = .ok read ∧ labels.same read = true := by
  rcases h with ⟨members, rfl, hperm⟩ | ⟨hempty, rfl⟩
  · exact Labels.exists_labelsOf hperm
  · refine ⟨.empty, rfl, (Labels.same_iff_perm _ _).mpr (.of_eq ?_)⟩
    exact List.isEmpty_iff.mp hempty

end Payload

/-! ## One record -/

theorem Alert.WrittenAs.read {alert : Alert} {members : List (Text × Json)}
    (h : alert.WrittenAs members) :
    ∃ read, Payload.alert (.object members) = .ok read ∧ alert.Same read := by
  obtain ⟨labels, hlabels, hsame⟩ := Payload.labelSet_of_inField h.labels "alert labels"
  obtain ⟨notes, hnotes, hsame'⟩ := Payload.labelSet_of_inField h.annotations "alert annotations"
  refine ⟨{ alert with labels, annotations := notes }, ?_, hsame, hsame', rfl, rfl, rfl⟩
  simp only [Payload.alert, Payload.object, hlabels, hnotes, h.activeAt, bind, Except.bind, pure,
    Except.pure, Payload.textOr_of_member h.state, Payload.textOr_of_member h.value]

theorem RuleSnapshot.WrittenAs.isAlerting {rule : RuleSnapshot} {members : List (Text × Json)}
    (h : rule.WrittenAs members) : Payload.isAlerting members = true := by
  simp [Payload.isAlerting, h.type, h.kind, Json.isText]

theorem RuleSnapshot.WrittenAs.read {rule : RuleSnapshot} {members : List (Text × Json)}
    (h : rule.WrittenAs members) :
    ∃ read, Payload.rule (.object members) = .ok (some read) ∧ rule.Same read := by
  obtain ⟨labels, hlabels, hsame⟩ := Payload.labelSet_of_inField h.labels "rule labels"
  obtain ⟨notes, hnotes, hsame'⟩ := Payload.labelSet_of_inField h.annotations "rule annotations"
  obtain ⟨entries, hentries, hlists⟩ := h.alerts
  obtain ⟨alerts, halerts, hall⟩ :=
    Payload.mapM_of_lists (fun _ _ halert => Alert.WrittenAs.read halert) hlists
  have hitems : Payload.items (Json.member "alerts" members) = .ok entries := by
    rw [hentries]
    cases entries <;> rfl
  refine ⟨{ rule with labels, annotations := notes, alerts }, ?_,
    rfl, rfl, rfl, hsame, hsame', rfl, hall, rfl, rfl⟩
  have hduration := h.duration
  simp only [Payload.given, Binary64.WrittenAs] at hduration
  simp only [Payload.rule, Payload.object, h.isAlerting, Payload.alertingRule, hlabels, hnotes,
    hduration, hitems, halerts, bind, Except.bind, pure, Except.pure, if_true,
    Payload.textOr_of_member h.name, Payload.textOr_of_member h.query,
    Payload.textOr_of_member h.state, Payload.textOr_of_member h.health, h.kind]

theorem Payload.rule_of_other {members : List (Text × Json)}
    (h : isAlerting members = false) : rule (.object members) = .ok none := by
  simp only [rule, object, h, bind, Except.bind]
  rfl

/-- Alerting rules are read in order, and what stands between them is left
out. -/
theorem AmongOthers.read {rules : List RuleSnapshot} {entries : List Json}
    (h : AmongOthers rules entries) :
    ∃ read, entries.mapM Payload.rule = .ok read ∧
      List.Forall₂ RuleSnapshot.Same rules (read.filterMap id) := by
  induction h with
  | nil => exact ⟨[], rfl, .nil⟩
  | rule hrule _ ih =>
    obtain ⟨rule, hread, hsame⟩ := hrule.read
    obtain ⟨rest, hrest, hall⟩ := ih
    exact ⟨some rule :: rest, mapM_eq_ok_iff.mpr (.cons hread (mapM_eq_ok_iff.mp hrest)),
      .cons hsame hall⟩
  | other hother _ ih =>
    obtain ⟨rest, hrest, hall⟩ := ih
    have hread := Payload.rule_of_other hother
    exact ⟨none :: rest, mapM_eq_ok_iff.mpr (.cons hread (mapM_eq_ok_iff.mp hrest)), hall⟩

theorem GroupSnapshot.WrittenAs.read {group : GroupSnapshot} {members : List (Text × Json)}
    (h : group.WrittenAs members) :
    ∃ read, Payload.ruleGroup (.object members) = .ok read ∧ group.Same read := by
  obtain ⟨entries, hentries, hamong⟩ := h.rules
  obtain ⟨rules, hrules, hall⟩ := hamong.read
  have hitems : Payload.items (Json.member "rules" members) = .ok entries := by
    rw [hentries]
    cases entries <;> rfl
  refine ⟨{ group with rules := rules.filterMap id }, ?_, rfl, rfl, hall⟩
  have hinterval := h.interval
  simp only [Payload.given, Binary64.WrittenAs] at hinterval
  simp only [Payload.ruleGroup, Payload.object, hitems, hrules, hinterval, bind, Except.bind, pure,
    Except.pure, Payload.textOr_of_member h.name]

theorem QuerySample.WrittenAs.read {sample : QuerySample} {members : List (Text × Json)}
    (h : sample.WrittenAs members) :
    ∃ read, Payload.sample (.object members) = .ok read ∧ sample.Same read := by
  obtain ⟨metric, hmetric, hsame⟩ := Payload.labelSet_of_inField h.metric "sample metric"
  obtain ⟨time, reading, hpoint, htime, hreading⟩ := h.point
  refine ⟨{ sample with metric }, ?_, hsame, rfl, rfl⟩
  simp only [Payload.sample, Payload.object, hpoint, hmetric, htime, hreading _, bind, Except.bind,
    pure, Except.pure]

/-! ## Pages -/

namespace Payload

/-- An answer that reports success, with a page of data. Further members do
not matter. -/
def Reports (payload : Json) (page : List (Text × Json)) : Prop :=
  ∃ members, payload = .object members ∧ Json.member "status" members = .text "success" ∧
    Json.member "data" members = .object page

/-- An answer with the alerts page. -/
def WritesAlerts (alerts : List Alert) (payload : Json) : Prop :=
  ∃ page entries, Reports payload page ∧ Json.member "alerts" page = .array entries ∧
    Json.Lists Alert.WrittenAs alerts entries

/-- An answer with the rules page. -/
def WritesGroups (groups : List GroupSnapshot) (payload : Json) : Prop :=
  ∃ page entries, Reports payload page ∧ Json.member "groups" page = .array entries ∧
    Json.Lists GroupSnapshot.WrittenAs groups entries

/-- An answer with an instant vector. -/
def WritesVector (samples : List QuerySample) (payload : Json) : Prop :=
  ∃ page entries, Reports payload page ∧ Json.member "resultType" page = .text "vector" ∧
    Json.member "result" page = .array entries ∧ Json.Lists QuerySample.WrittenAs samples entries

variable {payload : Json} {page : List (Text × Json)}

theorem Reports.data (h : Reports payload page) : Payload.data payload = .ok page := by
  obtain ⟨members, rfl, hstatus, hdata⟩ := h
  simp [Payload.data, hstatus, hdata, Json.isText]

theorem WritesAlerts.read {alerts : List Alert} (h : WritesAlerts alerts payload) :
    ∃ read, Payload.alerts payload = .ok read ∧ List.Forall₂ Alert.Same alerts read := by
  obtain ⟨page, entries, hreports, hentries, hlists⟩ := h
  obtain ⟨read, hread, hsame⟩ := mapM_of_lists (fun _ _ h => Alert.WrittenAs.read h) hlists
  refine ⟨read, ?_, hsame⟩
  simp only [Payload.alerts, hreports.data, pageItems_eq_ok_iff.mpr hentries, bind, Except.bind,
    hread]

theorem WritesGroups.read {groups : List GroupSnapshot} (h : WritesGroups groups payload) :
    ∃ read, Payload.ruleGroups payload = .ok read ∧
      List.Forall₂ GroupSnapshot.Same groups read := by
  obtain ⟨page, entries, hreports, hentries, hlists⟩ := h
  obtain ⟨read, hread, hsame⟩ := mapM_of_lists (fun _ _ h => GroupSnapshot.WrittenAs.read h) hlists
  refine ⟨read, ?_, hsame⟩
  simp only [Payload.ruleGroups, hreports.data, pageItems_eq_ok_iff.mpr hentries, bind,
    Except.bind, hread]

theorem WritesVector.read {samples : List QuerySample} (h : WritesVector samples payload) :
    ∃ read, Payload.vector payload = .ok read ∧ List.Forall₂ QuerySample.Same samples read := by
  obtain ⟨page, entries, hreports, htype, hentries, hlists⟩ := h
  obtain ⟨read, hread, hsame⟩ := mapM_of_lists (fun _ _ h => QuerySample.WrittenAs.read h) hlists
  refine ⟨read, ?_, hsame⟩
  have hvector : (Json.member "resultType" page).isText "vector" = true := by
    simp [htype, Json.isText]
  simp only [Payload.vector, hreports.data, hvector, pageItems_eq_ok_iff.mpr hentries, bind,
    Except.bind, if_true, hread]

/-- **Pages**: what an engine has written is what is read. A page of alerts,
of rule groups or of samples is read entry by entry, each as the record
that it was written for; and of the groups that are read, the first one of
a name is found, or none when none was written with it. -/
theorem pages_read :
    (∀ (alerts : List Alert) (payload : Json), WritesAlerts alerts payload →
      ∃ read, Payload.alerts payload = .ok read ∧ List.Forall₂ Alert.Same alerts read) ∧
    (∀ (groups : List GroupSnapshot) (payload : Json), WritesGroups groups payload →
      ∃ read, Payload.ruleGroups payload = .ok read ∧
        List.Forall₂ GroupSnapshot.Same groups read ∧
        (∀ name, findGroup? name read = none ↔ ∀ group ∈ groups, group.name ≠ name) ∧
        ∀ before group after, groups = before ++ group :: after →
          (∀ earlier ∈ before, earlier.name ≠ group.name) →
          ∃ found, findGroup? group.name read = some found ∧ group.Same found) ∧
    (∀ (samples : List QuerySample) (payload : Json), WritesVector samples payload →
      ∃ read, Payload.vector payload = .ok read ∧ List.Forall₂ QuerySample.Same samples read) := by
  refine ⟨fun _ _ h => h.read, ?_, fun _ _ h => h.read⟩
  intro groups payload h
  obtain ⟨read, hread, hsame⟩ := h.read
  refine ⟨read, hread, hsame, findGroup?_eq_none_iff hsame, ?_⟩
  rintro before group after rfl hfirst
  exact findGroup?_of_first hsame hfirst

end Payload

end Pages

/-! ## One engine -/

namespace Payload

/-- A firing alert without annotations. -/
def firingAlert : Alert where
  labels := .ofList [("alertname", "A")]
  annotations := .empty
  state := AlertState.firing
  value := "1e+00"
  activeAt := some 1000

/-- The alert as an engine writes it that leaves out what is empty. -/
def firingMembers : List (Text × Json) := [
  ("activeAt", .text "1970-01-01T00:00:01Z"),
  ("labels", firingAlert.labels.toJson),
  ("state", .text AlertState.firing),
  ("value", .text "1e+00")]

theorem writtenAs_firingMembers : firingAlert.WrittenAs firingMembers where
  labels := .inl ⟨_, by simp [firingMembers, Labels.toJson], .rfl⟩
  annotations := .inr ⟨rfl, by simp [firingMembers]⟩
  state := by simp [firingMembers, firingAlert]
  value := by simp [firingMembers, firingAlert]
  activeAt := by
    have htime : Timestamp.ofText? "1970-01-01T00:00:01Z" = some 1000 := by decide +kernel
    simpa [firingMembers, firingAlert] using timestamp_text htime (by decide +kernel)

/-- The rule of the alert, which has no hold. -/
def firingRule : RuleSnapshot where
  name := "A"
  query := "up == 0"
  state := AlertState.firing
  labels := .empty
  annotations := .empty
  alerts := [firingAlert]

def firingRuleMembers : List (Text × Json) := [
  ("type", .text alertingKind),
  ("name", .text "A"),
  ("query", .text "up == 0"),
  ("state", .text AlertState.firing),
  ("health", .text "ok"),
  ("alerts", .array [.object firingMembers])]

theorem writtenAs_firingRuleMembers : firingRule.WrittenAs firingRuleMembers where
  kind := rfl
  type := by simp [firingRuleMembers, firingRule, alertingKind]
  name := by simp [firingRuleMembers, firingRule]
  query := by simp [firingRuleMembers, firingRule]
  state := by simp [firingRuleMembers, firingRule]
  health := by simp [firingRuleMembers, firingRule]
  labels := .inr ⟨rfl, by simp [firingRuleMembers]⟩
  annotations := .inr ⟨rfl, by simp [firingRuleMembers]⟩
  duration fault := rfl
  alerts := ⟨_, by simp [firingRuleMembers], .cons ⟨_, rfl, writtenAs_firingMembers⟩ .nil⟩

/-- Its group, with a rule of another type before it. -/
def firingGroup : GroupSnapshot where
  name := "G"
  interval := 10
  rules := [firingRule]

def firingGroupMembers : List (Text × Json) := [
  ("name", .text "G"),
  ("interval", .text "10"),
  ("rules", .array [.object [("type", .text "recording")], .object firingRuleMembers])]

theorem writtenAs_firingGroupMembers : firingGroup.WrittenAs firingGroupMembers where
  name := by simp [firingGroupMembers, firingGroup]
  interval fault := rfl
  rules := ⟨[.object [("type", .text "recording")], .object firingRuleMembers],
    by simp [firingGroupMembers], .other (by decide +kernel)
      (.rule writtenAs_firingRuleMembers .nil)⟩

/-- The series of the alert. -/
def firingSample : QuerySample where
  metric := firingAlert.labels
  timestamp := 1500
  value := 1

def firingSampleMembers : List (Text × Json) := [
  ("metric", firingAlert.labels.toJson),
  ("value", .array [.text "1.5", .text "1"])]

theorem writtenAs_firingSampleMembers : firingSample.WrittenAs firingSampleMembers where
  metric := .inl ⟨_, by simp [firingSampleMembers, firingSample, Labels.toJson], .rfl⟩
  point := ⟨.text "1.5", .text "1", by simp [firingSampleMembers],
    eq_ok_of_toOption (by decide +kernel), fun _ => rfl⟩

theorem reports_success (page : List (Text × Json)) : Reports (success page) page :=
  ⟨_, rfl, by simp, by simp⟩

theorem pages_read_firing :
    (∃ read, alerts (success [("alerts", .array [.object firingMembers])]) = .ok read ∧
      List.Forall₂ Alert.Same [firingAlert] read) ∧
    (∃ read, ruleGroups (success [("groups", .array [.object firingGroupMembers])]) = .ok read ∧
      findGroup? "A" read = none ∧
      ∃ found, findGroup? "G" read = some found ∧ firingGroup.Same found) ∧
    ∃ read, vector (success [
        ("resultType", .text "vector"), ("result", .array [.object firingSampleMembers])]) =
          .ok read ∧ List.Forall₂ QuerySample.Same [firingSample] read := by
  obtain ⟨halerts, hgroups, hsamples⟩ := pages_read
  have hsuccess := reports_success
  refine ⟨halerts _ _ ⟨_, [.object firingMembers], hsuccess _, by simp, ?_⟩, ?_,
    hsamples _ _ ⟨_, [.object firingSampleMembers], hsuccess _, by simp, by simp, ?_⟩⟩
  · exact .cons ⟨_, rfl, writtenAs_firingMembers⟩ .nil
  · have hlists : Json.Lists GroupSnapshot.WrittenAs [firingGroup] [.object firingGroupMembers] :=
      .cons ⟨_, rfl, writtenAs_firingGroupMembers⟩ .nil
    obtain ⟨read, hread, -, hnone, hfirst⟩ :=
      hgroups _ _
        ⟨_, _, hsuccess [("groups", .array [.object firingGroupMembers])], by simp, hlists⟩
    exact ⟨read, hread, (hnone "A").mpr (by decide), hfirst [] firingGroup [] rfl nofun⟩
  · exact .cons ⟨_, rfl, writtenAs_firingSampleMembers⟩ .nil

end Payload

end AlertConformance
