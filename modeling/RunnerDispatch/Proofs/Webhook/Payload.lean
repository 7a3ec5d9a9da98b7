import RunnerDispatch.Proofs.Json.Pairs
import RunnerDispatch.Proofs.Json.Text
import RunnerDispatch.Proofs.SortedSet
import RunnerDispatch.Webhook.Payload

/-!
# What a body has to say

What is made of a body is a matter of the document it holds, and what the document has to say is read off its
two fields and theirs.

* `NamesStatus`, `Describes`, `Announces`: how a document says that a job has reached a state. **A list stands
  for a record, and a record for a name.**
* `parseJob_cases`: **a body is accepted just if it holds a document that announces a job.**
* `AnnouncedBy`, `parseJob_object`: what the members of a record have to say, where lists do not stand for
  records.
-/

namespace RunnerDispatch.Webhook

open Json Text

variable {body : Bytes} {d : Document} {job : Job}

/-! ## What is read -/

/-- The fields of a run. -/
def runPairing : Pairing PartialRun (List String) Url Run where
  title := "struct WorkflowJob"
  first := "labels"
  second := "run_url"
  first_ne_second := by decide
  holding := PartialRun.mk
  fst := PartialRun.labels
  snd := PartialRun.url
  fst_holding _ _ := rfl
  snd_holding _ _ := rfl
  readFirst := readTexts
  readSecond _ := Job.readUrl
  build := Run.mk

/-- The fields of a body. -/
def bodyPairing : Pairing PartialBody JobStatus Run Job where
  title := "struct WorkflowJobEvent"
  first := "action"
  second := "workflow_job"
  first_ne_second := by decide
  holding := PartialBody.mk
  fst := PartialBody.action
  snd := PartialBody.run
  fst_holding _ _ := rfl
  snd_holding _ _ := rfl
  readFirst _ := JobStatus.read
  readSecond := readRecord runShape
  build action run := Job.ofLabels run.labels action run.url

theorem runShape_eq : runShape = runPairing.shape := by
  refine (Shape.mk.injEq ..).mpr ⟨rfl, rfl, rfl, funext fun ⟨labels, url⟩ => ?_⟩
  cases labels <;> cases url <;> rfl

theorem bodyShape_eq : bodyShape = bodyPairing.shape := by
  refine (Shape.mk.injEq ..).mpr ⟨rfl, rfl, rfl, funext fun ⟨action, run⟩ => ?_⟩
  cases action <;> cases run <;> rfl

/-! ## What is meant -/

/-- A value that **names a state**: its name, or a record of that name alone. -/
def NamesStatus (d : Document) (status : JobStatus) : Prop :=
  d = .string status.name ∨ d = .object [(status.name, .null)]

theorem chosen_status_iff {name : String} {status : JobStatus} :
    (chosen (JobStatus.all.map fun s => (s.name, s)) name).toOption = some status ↔ name = status.name := by
  constructor
  · intro h
    unfold chosen at h
    split at h
    · rename_i found status' hfind
      obtain rfl := Option.some.inj h
      have hname := List.find?_some hfind
      simp only [beq_iff_eq] at hname
      obtain ⟨s, -, hs⟩ := List.mem_map.1 (List.mem_of_find?_eq_some hfind)
      obtain ⟨rfl, rfl⟩ := Prod.mk.inj hs
      exact hname.symm
    · cases h
  · rintro rfl
    cases status <;> decide

theorem variantOf_status_iff {status : JobStatus} :
    d.variantOf (JobStatus.all.map fun s => (s.name, s)) = some status ↔ NamesStatus d status := by
  constructor
  · intro h
    unfold Document.variantOf at h
    split at h
    · rw [chosen_status_iff.1 h]
      exact .inl rfl
    · rw [chosen_status_iff.1 h]
      exact .inr rfl
    · cases h
  · rintro (rfl | rfl)
    · exact chosen_status_iff.2 rfl
    · exact chosen_status_iff.2 rfl

theorem textAs_urlOf_iff {url : Url} :
    d.textAs Job.urlOf = some url ↔ ∃ address, d = .string address ∧ Url.parse address = .ok url := by
  constructor
  · intro h
    unfold Document.textAs at h
    split at h
    · rename_i address
      unfold Job.urlOf at h
      split at h
      · rename_i u hu
        obtain rfl := Option.some.inj h
        exact ⟨address, rfl, hu⟩
      · cases h
    · cases h
  · rintro ⟨address, rfl, hu⟩
    rw [Document.string, Document.textAs, Job.urlOf, hu]
    rfl

/-- A value that **describes a run**: its labels and the address under which it is found. -/
def Describes (d : Document) (run : Run) : Prop :=
  ∃ address, Document.Pairs "labels" "run_url" (.list (run.labels.map .string)) (.string address) d ∧
    Url.parse address = .ok run.url

/-- A document that **announces a job**: it names the state and describes the run. -/
def Announces (d : Document) (job : Job) : Prop :=
  ∃ action described run, Document.Pairs "action" "workflow_job" action described d ∧
    NamesStatus action job.status ∧ Describes described run ∧ job.url = run.url ∧
      ∀ label, label ∈ job.labels ↔ label ∈ run.labels

/-- What a document means as the description of a run. -/
def runMeaning : Document → Option Run :=
  runPairing.shape.meaning (runPairing.change (Document.listOf Document.content?) (Document.textAs Job.urlOf))

/-- What a document means as a body. -/
def bodyMeaning : Document → Option Job :=
  bodyPairing.shape.meaning
    (bodyPairing.change (Document.variantOf (JobStatus.all.map fun s => (s.name, s))) runMeaning)

theorem runMeaning_eq_some_iff {run : Run} : runMeaning d = some run ↔ Describes d run := by
  rw [runMeaning, Pairing.meaning_eq_some_iff]
  constructor
  · rintro ⟨d₁, d₂, labels, url, hpairs, hlabels, hurl, rfl⟩
    rw [Document.listOf_content?_eq_some_iff] at hlabels
    obtain ⟨address, rfl, haddress⟩ := textAs_urlOf_iff.1 hurl
    exact ⟨address, hlabels ▸ hpairs, haddress⟩
  · rintro ⟨address, hpairs, hurl⟩
    exact ⟨_, _, run.labels, run.url, hpairs, Document.listOf_content?_eq_some_iff.2 rfl,
      textAs_urlOf_iff.2 ⟨address, rfl, hurl⟩, rfl⟩

theorem ofLabels_eq_iff {run : Run} {status : JobStatus} : Job.ofLabels run.labels status run.url = job ↔
    job.status = status ∧ job.url = run.url ∧ ∀ label, label ∈ job.labels ↔ label ∈ run.labels := by
  constructor
  · rintro rfl
    exact ⟨rfl, rfl, fun label => SortedSet.mem_ofList⟩
  · obtain ⟨labels, status', url⟩ := job
    rintro ⟨rfl, rfl, hlabels⟩
    rw [Job.ofLabels, Job.mk.injEq]
    exact ⟨SortedSet.ext fun label => SortedSet.mem_ofList.trans (hlabels label).symm, rfl, rfl⟩

theorem bodyMeaning_eq_some_iff : bodyMeaning d = some job ↔ Announces d job := by
  rw [bodyMeaning, Pairing.meaning_eq_some_iff]
  constructor
  · rintro ⟨d₁, d₂, status, run, hpairs, hstatus, hrun, hjob⟩
    obtain ⟨rfl, hurl, hlabels⟩ := ofLabels_eq_iff.1 hjob
    exact ⟨d₁, d₂, run, hpairs, variantOf_status_iff.1 hstatus, runMeaning_eq_some_iff.1 hrun, hurl, hlabels⟩
  · rintro ⟨d₁, d₂, run, hpairs, hstatus, hrun, hurl, hlabels⟩
    exact ⟨d₁, d₂, job.status, run, hpairs, variantOf_status_iff.2 hstatus, runMeaning_eq_some_iff.2 hrun,
      ofLabels_eq_iff.2 ⟨rfl, hurl, hlabels⟩⟩

/-! ## What is made of a body -/

theorem interprets_body : Interprets (readRecord bodyShape) bodyMeaning := by
  have hrun : Interprets (readRecord runShape) runMeaning := by
    rw [runShape_eq]
    exact runPairing.interprets interprets_readTexts (interprets_readTextAs _ _)
  rw [bodyShape_eq]
  exact bodyPairing.interprets (interprets_readVariant _) hrun

theorem parseJob_ok_iff_readWhole :
    parseJob body = .ok job ↔ readWhole (readRecord bodyShape) body = .ok job := by
  unfold parseJob
  split
  · rename_i job' h
    rw [h, Except.ok.injEq, Except.ok.injEq]
  · rename_i e h
    rw [h]
    exact ⟨(nomatch ·), (nomatch ·)⟩

/-- **A body that is not accepted is malformed.** -/
theorem exists_reason (h : ∀ job, parseJob body ≠ .ok job) :
    ∃ reason, parseJob body = .error (.malformed reason) := by
  unfold parseJob at h ⊢
  split
  · rename_i job hread
    rw [hread] at h
    exact absurd rfl (h job)
  · exact ⟨_, rfl⟩

/-- **A body is accepted just if it holds a document that announces a job.** -/
theorem parseJob_ok_iff_exists :
    parseJob body = .ok job ↔ ∃ d : Document, d.WrittenIn body ∧ Announces d job := by
  rw [parseJob_ok_iff_readWhole, interprets_body.readWhole_ok_iff]
  simp only [bodyMeaning_eq_some_iff]

/-- **What is made of a body depends on its document alone.** -/
theorem parseJob_ok_iff_announces (h : d.WrittenIn body) : parseJob body = .ok job ↔ Announces d job := by
  have hread := interprets_body.readWhole_eq h
  rw [parseJob_ok_iff_readWhole, ← bodyMeaning_eq_some_iff, ← hread]
  cases readWhole (readRecord bodyShape) body with
  | error e => exact ⟨(nomatch ·), (nomatch ·)⟩
  | ok job' => rw [Except.ok.injEq]; exact Option.some_inj.symm

/-- **What is accepted.** A body is accepted just if it holds a document that announces a job, and it is taken
for that job. Every other body is malformed. -/
theorem parseJob_cases (body : Bytes) :
    (∀ job, parseJob body = .ok job ↔ ∃ d : Document, d.WrittenIn body ∧ Announces d job) ∧
    ((¬ ∃ job, ∃ d : Document, d.WrittenIn body ∧ Announces d job) →
      ∃ reason, parseJob body = .error (.malformed reason)) := by
  refine ⟨fun job => parseJob_ok_iff_exists, fun hnone => exists_reason fun job h => hnone ⟨job, ?_⟩⟩
  exact parseJob_ok_iff_exists.1 h

/-- A string as the printer spells it. -/
theorem literal_spelled (t : String) (s : Bytes) :
    Literal (some t) (Ascii.quote :: (spelled t.toList ++ Ascii.quote :: s)) s :=
  .text (readText_ok_iff.1 (readText_spelled t s))

theorem written_spelled (t : String) (s : Bytes) :
    Written (.value (.string t)) (Ascii.quote :: (spelled t.toList ++ Ascii.quote :: s)) s :=
  .text (literal_spelled t s)

/-- A body without records. -/
def listBody : Bytes := Bytes.ofString "[\"queued\",[[\"x64\"],\"https://[::1]/7\"]]"

theorem written_listBody : Document.WrittenIn
    (.list [.string "queued", .list [.list [.string "x64"], .string "https://[::1]/7"]]) listBody := by
  have hbody : listBody =
      Ascii.openBracket :: Ascii.quote :: (spelled "queued".toList ++ Ascii.quote :: Ascii.comma ::
      Ascii.openBracket :: Ascii.openBracket :: Ascii.quote :: (spelled "x64".toList ++ Ascii.quote ::
      Ascii.closeBracket :: Ascii.comma :: Ascii.quote :: (spelled "https://[::1]/7".toList ++ Ascii.quote ::
      [Ascii.closeBracket, Ascii.closeBracket]))) := by
    decide
  rw [hbody]
  have hlabels (s : Bytes) : Written (.value (.list [.string "x64"])) (Ascii.openBracket :: Ascii.quote ::
      (spelled "x64".toList ++ Ascii.quote :: Ascii.closeBracket :: s)) s :=
    .list (.item (.first (.none _)) (written_spelled "x64" _) (.noItems _ _)) (.none _)
  refine ⟨_, [], .none _, .list (.item (.first (.none _)) (written_spelled "queued" _)
    (.item (.next (.none _) (.none _)) (.list ?_ (.none _)) (.noItems _ _))) (.none _), .none _⟩
  exact .item (.first (.none _)) (hlabels _)
    (.item (.next (.none _) (.none _)) (written_spelled "https://[::1]/7" _) (.noItems _ _))

theorem exists_url : ∃ url, Url.parse "https://[::1]/7" = .ok url := by
  have hsome : (Url.parse "https://[::1]/7").toOption.isSome = true := by decide +kernel
  cases hurl : Url.parse "https://[::1]/7" with
  | ok url => exact ⟨url, rfl⟩
  | error e =>
    rw [hurl] at hsome
    cases hsome

/-- **A job is announced without any record**, by a list of the action and of a list of labels and address. -/
theorem parseJob_listBody :
    (∃ job, parseJob listBody = .ok job) ∧ ¬ ∃ members, (Document.record members).WrittenIn listBody := by
  constructor
  · obtain ⟨url, hurl⟩ := exists_url
    refine ⟨Job.ofLabels ["x64"] .queued url, (parseJob_ok_iff_announces written_listBody).2 ?_⟩
    refine ⟨_, _, ⟨["x64"], url⟩, .inl rfl, .inl rfl, ⟨_, .inl rfl, hurl⟩, rfl, fun label => ?_⟩
    exact SortedSet.mem_ofList
  · rintro ⟨members, s, t, hs, hd, -⟩
    have hlist := written_listBody
    obtain ⟨s', t', hs', hd', -⟩ := hlist
    obtain ⟨b, x, rfl, hb⟩ := hd.exists_head
    obtain ⟨b', x', rfl, hb'⟩ := hd'.exists_head
    have hsame : b = b' := (List.cons.inj (hs.unique hs' hb.isBlank_eq hb'.isBlank_eq)).1
    exact absurd (hb.symm.trans (hsame.trans hb')) (by decide)

/-! ## Bodies that are records -/

/-- What the members of a body have to say for a job to be announced: **each of the four members that matter is
given once**, and what stands under other names does not matter. -/
def AnnouncedBy (members : List (String × Document)) (job : Job) : Prop :=
  valuesOf "action" members = [.string job.status.name] ∧
    ∃ (run : List (String × Document)) (labels : List String) (address : String),
      valuesOf "workflow_job" members = [.object run] ∧ valuesOf "labels" run = [.list (labels.map .string)] ∧
      valuesOf "run_url" run = [.string address] ∧
      Url.parse address = .ok job.url ∧ ∀ label, label ∈ job.labels ↔ label ∈ labels

theorem namesStatus_string {name : String} {status : JobStatus} :
    NamesStatus (.string name) status ↔ name = status.name := by
  rw [NamesStatus, Document.string_inj]
  exact or_iff_left (nomatch ·)

/-- Where names and records stand for themselves, a job is announced by the members alone. -/
theorem announces_object_iff {members : List (String × Document)}
    (haction : ∀ d ∈ valuesOf "action" members, ∃ name, d = .string name)
    (hrun : ∀ d ∈ valuesOf "workflow_job" members, ∃ run, d = .object run) :
    Announces (.object members) job ↔ AnnouncedBy members job := by
  constructor
  · rintro ⟨action, described, run, hpairs, hstatus, ⟨address, hdescribed, hurl⟩, hjob, hlabels⟩
    obtain ⟨hactions, hruns⟩ := Document.pairs_object.1 hpairs
    obtain ⟨name, rfl⟩ := haction action (by rw [hactions]; exact List.mem_singleton_self _)
    obtain ⟨members', rfl⟩ := hrun described (by rw [hruns]; exact List.mem_singleton_self _)
    obtain ⟨hlabels', haddress⟩ := Document.pairs_object.1 hdescribed
    rw [namesStatus_string.1 hstatus] at hactions
    exact ⟨hactions, members', run.labels, address, hruns, hlabels', haddress, hjob ▸ hurl, hlabels⟩
  · rintro ⟨hactions, members', labels, address, hruns, hlabels', haddress, hurl, hlabels⟩
    exact ⟨_, _, ⟨labels, job.url⟩, Document.pairs_object.2 ⟨hactions, hruns⟩, .inl rfl,
      ⟨address, Document.pairs_object.2 ⟨hlabels', haddress⟩, hurl⟩, rfl, hlabels⟩

/-- **What is made of a record.** Let a body hold a record, in whatever order and with whatever blanks and
escapes its members are written, in which every value named `action` is a string and every value named
`workflow_job` a record. It is accepted just if `action` and `workflow_job` and, inside, `labels` and `run_url`
are each given once, with the name of a state, with strings and with a URL; the job then has that state, exactly
those labels and that URL. Otherwise the body is malformed. Members of other names may hold any values. -/
theorem parseJob_object {members : List (String × Document)} {body : Bytes}
    (hbody : (Document.object members).WrittenIn body)
    (haction : ∀ d ∈ valuesOf "action" members, ∃ name, d = .string name)
    (hrun : ∀ d ∈ valuesOf "workflow_job" members, ∃ run, d = .object run) :
    (∀ job, parseJob body = .ok job ↔ AnnouncedBy members job) ∧
    ((¬ ∃ job, AnnouncedBy members job) → ∃ reason, parseJob body = .error (.malformed reason)) := by
  have hiff (job : Job) : parseJob body = .ok job ↔ AnnouncedBy members job :=
    (parseJob_ok_iff_announces hbody).trans (announces_object_iff haction hrun)
  exact ⟨hiff, fun hnone => exists_reason fun job h => hnone ⟨job, (hiff job).1 h⟩⟩

/-- The members of a body, with one that is passed over. -/
def recordMembers : List (String × Document) :=
  [("action", .string "queued"), ("id", .list [.number, .record []]),
    ("workflow_job", .object [("run_url", .string "https://[::1]/7"), ("labels", .list [.string "X64"])])]

/-- A body with blanks and with an escape in the name of a member. -/
def recordBody : Bytes := Bytes.ofString ("\x7b \"\\u0061ction\": \"queued\", \"id\": [1, \x7b\x7d], " ++
  "\"workflow_job\": \x7b\"run_url\":\"https://[::1]/7\",\"labels\":[\"X64\"]\x7d\x7d")

theorem written_recordBody : (Document.object recordMembers).WrittenIn recordBody := by
  have hbody : recordBody =
      Ascii.openBrace :: Ascii.space :: Ascii.quote :: Ascii.backslash :: Ascii.byte 'u' :: Ascii.byte '0' ::
        Ascii.byte '0' :: Ascii.byte '6' :: Ascii.byte '1' :: (spelled "ction".toList ++ Ascii.quote ::
      Ascii.colon :: Ascii.space :: Ascii.quote :: (spelled "queued".toList ++ Ascii.quote ::
      Ascii.comma :: Ascii.space :: Ascii.quote :: (spelled "id".toList ++ Ascii.quote ::
      Ascii.colon :: Ascii.space :: Ascii.openBracket :: Ascii.byte '1' :: Ascii.comma :: Ascii.space ::
        Ascii.openBrace :: Ascii.closeBrace :: Ascii.closeBracket ::
      Ascii.comma :: Ascii.space :: Ascii.quote :: (spelled "workflow_job".toList ++ Ascii.quote ::
      Ascii.colon :: Ascii.space :: Ascii.openBrace ::
      Ascii.quote :: (spelled "run_url".toList ++ Ascii.quote ::
      Ascii.colon :: Ascii.quote :: (spelled "https://[::1]/7".toList ++ Ascii.quote ::
      Ascii.comma :: Ascii.quote :: (spelled "labels".toList ++ Ascii.quote ::
      Ascii.colon :: Ascii.openBracket :: Ascii.quote :: (spelled "X64".toList ++ Ascii.quote ::
      Ascii.closeBracket :: Ascii.closeBrace :: [Ascii.closeBrace])))))))) := by
    decide
  have space (s : Bytes) : Blanks (Ascii.space :: s) s := .cons (by decide) (.none s)
  have haction (s : Bytes) : Literal (some "action") (Ascii.quote :: Ascii.backslash :: Ascii.byte 'u' ::
      Ascii.byte '0' :: Ascii.byte '0' :: Ascii.byte '6' :: Ascii.byte '1' ::
        (spelled "ction".toList ++ Ascii.quote :: s)) s := by
    have hdigits (s : Bytes) : FourDigits 97 (Ascii.byte '0' :: Ascii.byte '0' :: Ascii.byte '6' ::
        Ascii.byte '1' :: s) s := .mk (i := 0) (j := 0) (k := 6) (l := 1) rfl rfl rfl rfl
    have hspelled := Spells.escape (.numbered (hdigits _) (.inl (by decide)))
      (readText_ok_iff.1 (readText_spelled "ction" s))
    have hcontent : String.utf8EncodeChar (Char.ofNat 97) ++ Bytes.ofString "ction" =
        Bytes.ofString "action" := by
      decide
    rw [hcontent] at hspelled
    exact .text hspelled
  have hid (s : Bytes) : Written (.value (.list [.number, .record []])) (Ascii.openBracket :: Ascii.byte '1' ::
      Ascii.comma :: Ascii.space :: Ascii.openBrace :: Ascii.closeBrace :: Ascii.closeBracket :: s) s := by
    have hone (s : Bytes) : Numeral (Ascii.byte '1' :: s) s :=
      .positive (.mk (.digits (by decide) (by decide) (.none s)) (.none s) (.none s))
    exact .list (.item (.first (.none _)) (.number (hone _))
      (.item (.next (.none _) (space _)) (.record (.noMembers _ _) (.none _)) (.noItems _ _))) (.none _)
  rw [hbody]
  refine ⟨_, [], .none _, .record (.member (.first (space _)) (haction _) (.none _) (space _)
    (written_spelled "queued" _) (.member (.next (.none _) (space _)) (literal_spelled "id" _) (.none _)
      (space _) (hid _) (.member (.next (.none _) (space _)) (literal_spelled "workflow_job" _) (.none _)
        (space _) (.record ?_ (.none _)) (.noMembers _ _)))) (.none _), .none _⟩
  exact .member (.first (.none _)) (literal_spelled "run_url" _) (.none _) (.none _)
    (written_spelled "https://[::1]/7" _) (.member (.next (.none _) (.none _)) (literal_spelled "labels" _)
      (.none _) (.none _) (.list (.item (.first (.none _)) (written_spelled "X64" _) (.noItems _ _)) (.none _))
      (.noMembers _ _))

/-- A queued job with one label is announced, whatever its identifier. -/
theorem parseJob_object_queued : (Document.object recordMembers).WrittenIn recordBody ∧
    ∃ job, parseJob recordBody = .ok job ∧ job.status = .queued ∧
      ∀ label, label ∈ job.labels ↔ label = "X64" := by
  refine ⟨written_recordBody, ?_⟩
  have hactions : valuesOf "action" recordMembers = [.string "queued"] := rfl
  have hruns : valuesOf "workflow_job" recordMembers =
      [.object [("run_url", .string "https://[::1]/7"), ("labels", .list [.string "X64"])]] := rfl
  have hparse := (parseJob_object written_recordBody
    (fun d hd => ⟨"queued", List.mem_singleton.1 (hactions ▸ hd)⟩)
    (fun d hd => ⟨_, List.mem_singleton.1 (hruns ▸ hd)⟩)).1
  obtain ⟨url, hurl⟩ := exists_url
  have hlabels (label : String) : label ∈ SortedSet.ofList ["X64"] ↔ label = "X64" :=
    SortedSet.mem_ofList.trans List.mem_singleton
  refine ⟨⟨SortedSet.ofList ["X64"], .queued, url⟩, (hparse _).2 ⟨hactions, ?_⟩, rfl, hlabels⟩
  exact ⟨_, ["X64"], "https://[::1]/7", hruns, rfl, rfl, hurl, fun label => SortedSet.mem_ofList⟩

end RunnerDispatch.Webhook
