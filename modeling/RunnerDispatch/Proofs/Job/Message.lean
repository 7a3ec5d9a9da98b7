import RunnerDispatch.Job
import RunnerDispatch.Proofs.Json.Records

/-!
# Messages are read back

A job waits in its queue as a message, and whoever takes the message has to find the job in it.

* `Url.Stable`: a URL that is read back from its own text, as every URL is meant to be.
* `Job.decode_message`: **a message holds its job.**
* `Job.message_identifies`: so messages tell jobs apart, and neither order nor repetition of the labels
  shows in them.
-/

namespace RunnerDispatch

/-- The URL is read back from its own text. -/
def Url.Stable (u : Url) : Prop := Url.parse u.text = .ok u

open Json

/-- A state is taken for the state of its name. -/
theorem JobStatus.readsAs (status : JobStatus) : ReadsAs (fun _ => JobStatus.read) (.text status.name) status :=
  readVariant_name (by cases status <;> rfl)

namespace Job

/-- A text is taken for the URL that it writes. -/
theorem readUrl_text {text : String} {u : Url} (h : Url.parse text = .ok u) :
    ReadsAs (fun _ => readUrl) (.text text) u :=
  readTextAs_text (by rw [urlOf, h])

/-- The labels of a list, without regard to order and repetition, are what a job keeps. -/
theorem ofLabels_eq_iff {labels labels' : List String} {status status' : JobStatus} {url url' : Url} :
    ofLabels labels status url = ofLabels labels' status' url' ↔
      (∀ l, l ∈ labels ↔ l ∈ labels') ∧ status = status' ∧ url = url' := by
  rw [ofLabels, ofLabels, Job.mk.injEq]
  refine and_congr_left fun _ => ⟨fun h l => ?_, fun h => SortedSet.ext fun l => ?_⟩
  · rw [← SortedSet.mem_ofList, h, SortedSet.mem_ofList]
  · rw [SortedSet.mem_ofList, SortedSet.mem_ofList, h l]

variable {job : Job}

/-- **A job is taken for itself** when its value is read. -/
theorem readsAs_value (hurl : job.url.Stable) : ReadsAs (readRecord shape) job.value job := by
  have hlabels := (readTexts_texts job.labels.toList).map fun labels => ({ labels } : Partial)
  have hstatus := (JobStatus.readsAs job.status).map fun status =>
    ({ labels := job.labels.toList, status } : Partial)
  have hread := (readUrl_text hurl).map fun url =>
    ({ labels := job.labels.toList, status := job.status, url } : Partial)
  refine readRecord_collects (.cons rfl rfl hlabels (.cons rfl rfl hstatus (.cons rfl rfl hread (.nil _)))) ?_
  exact congrArg Except.ok (by rw [ofLabels, SortedSet.ofList_toList])

/-- **A message holds its job.** -/
theorem decode_message (hurl : job.url.Stable) : decode (Bytes.ofString job.message) = .ok job :=
  readWhole_bytes (readsAs_value hurl)

/-- **Messages tell jobs apart.** -/
theorem message_inj {other : Job} (hurl : job.url.Stable) (hother : other.url.Stable) :
    other.message = job.message ↔ other = job := by
  refine ⟨fun h => ?_, fun h => congrArg message h⟩
  have hjob := decode_message hurl
  rw [← h, decode_message hother] at hjob
  exact Except.ok.inj hjob

/-- **The message of a job identifies it.** It is read back as the job, whatever characters the labels
have, so two jobs with one message are one job. Jobs whose labels differ only in their order or in how often
they stand there have one message, whatever their URL. -/
theorem message_identifies (hurl : job.url.Stable) :
    decode (Bytes.ofString job.message) = .ok job ∧
    (∀ other : Job, other.url.Stable → (other.message = job.message ↔ other = job)) ∧
    ∀ labels labels' : List String, (∀ l, l ∈ labels ↔ l ∈ labels') → ∀ status url,
      (ofLabels labels status url).message = (ofLabels labels' status url).message := by
  refine ⟨decode_message hurl, fun other hother => message_inj hurl hother, ?_⟩
  intro labels labels' hsame status url
  exact congrArg message (ofLabels_eq_iff.2 ⟨hsame, rfl, rfl⟩)

/-- A job with labels that have to be escaped. -/
def escapedJob : Job :=
  ofLabels ["", "\"", "\\", "\u0000", "\n", "𝔵64", "\"", ""] .inProgress
    ⟨"ci", some { host := some (.name "runs.example") }, .segments ["octo", "repo", "1"], some "attempt=2", none⟩

theorem message_identifies_escaped :
    decode (Bytes.ofString escapedJob.message) = .ok escapedJob ∧
      ∀ status url, (ofLabels ["a", "b", "a"] status url).message = (ofLabels ["b", "a"] status url).message := by
  have hurl : escapedJob.url.Stable := by
    show Url.parse _ = _
    cbv
  have h := message_identifies hurl
  exact ⟨h.1, h.2.2 _ _ (by simp [or_comm])⟩

end Job

end RunnerDispatch
