import Mathlib
import RunnerDispatch.Proofs.Bytes
import RunnerDispatch.Settings.Load

/-!
# Which problems are reported

An operator who reads the list of problems may repair one setting after another: every problem is in it, and none
of them comes and goes with another setting.

* `Setting`, `Settings.AgreeOn`: what is checked, in the order of the checks, and whether two settings agree on it.
* `Settings.Has`: a problem by the rule that it tells of, which looks at **one setting and at nothing else**.
* `Settings.Diagnosis`: a list of all problems and no others, each once and in order. There is only one such list,
  and `problems` is it.
* `Settings.problems_repaired`: **who repairs one setting is rid of its problem and of no other.**
* `Settings.Replaced`: what the environment does to settings.
* `Settings.checked_as_used`: the list says everything, and **what is checked is what is loaded**.
-/

namespace RunnerDispatch

/-! ## What is checked -/

/-- What is checked by itself. Whether metrics are asked for and where they are is one setting. -/
inductive Setting
  | bindAddress
  | path
  | secret
  | positive (which : Positive)
  | metrics
  | logLevel
  deriving DecidableEq, Repr

namespace Setting

/-- **The order of the checks.** -/
def all : List Setting :=
  [bindAddress, path, secret, positive .bodyLimit, positive .requestSeconds, positive .queueCapacity, metrics,
    logLevel]

theorem mem_all (k : Setting) : k ∈ all := by
  cases k with
  | positive which => cases which <;> decide
  | _ => decide

theorem pairwise_all : all.Pairwise fun j k => all.idxOf j < all.idxOf k := by decide

end Setting

namespace Problem

/-- The setting that a problem is about. -/
def setting : Problem → Setting
  | bindAddress _ => .bindAddress
  | webhookPath _ | reservedPath _ => .path
  | emptySecret => .secret
  | zero which => .positive which
  | metricsAddress _ => .metrics
  | logLevel _ => .logLevel

/-- Whether the setting of a problem is checked before that of another. -/
def Precedes (p q : Problem) : Prop := Setting.all.idxOf p.setting < Setting.all.idxOf q.setting

end Problem

/-- A path that begins with a slash, names something and needs no escapes. -/
structure IsUsablePath (path : String) : Prop where
  absolute : path.toList.head? = some '/'
  named : 1 < path.toList.length
  plain : ∀ c ∈ path.toList, isPathChar c = true

theorem isWebhookPath_iff {path : String} : isWebhookPath path = true ↔ IsUsablePath path := by
  have hslash : isPathChar '/' = true := by decide
  unfold isWebhookPath
  constructor
  · intro h
    split at h
    · rename_i c cs hpath
      refine ⟨by rw [hpath]; rfl, by rw [hpath]; simp, fun d hd => ?_⟩
      rw [hpath, List.mem_cons] at hd
      rcases hd with rfl | hd
      · exact hslash
      · exact List.all_eq_true.1 h d hd
    · exact (nomatch h)
  · rintro ⟨habsolute, hnamed, hplain⟩
    obtain ⟨cs, hcs⟩ := List.head?_eq_some_iff.1 habsolute
    rw [hcs] at hnamed hplain ⊢
    cases cs with
    | nil => exact absurd hnamed (Nat.lt_irrefl 1)
    | cons c cs => exact List.all_eq_true.2 fun d hd => hplain d (List.mem_cons_of_mem _ hd)

namespace Settings

/-- The value of a setting that must be greater than zero. -/
def positive (s : Settings) : Positive → ℕ
  | .bodyLimit => s.webhook.bodyLimit
  | .requestSeconds => s.requestSeconds
  | .queueCapacity => s.queue.capacity

variable {s s' : Settings} {p : Problem}

theorem pathProblem_eq_some_iff {path : String} : pathProblem path = some p ↔
    (¬ IsUsablePath path ∧ .webhookPath path = p) ∨
      (IsUsablePath path ∧ path = healthPath ∧ .reservedPath path = p) := by
  rw [pathProblem, ← isWebhookPath_iff]
  cases isWebhookPath path with
  | false => simp
  | true => simp

theorem zeroProblem_eq_some_iff {which : Positive} {value : ℕ} :
    zeroProblem which value = some p ↔ value = 0 ∧ .zero which = p :=
  Option.ite_some_none_eq_some

/-- Whether settings agree on one that is checked. -/
def AgreeOn (s s' : Settings) : Setting → Prop
  | .bindAddress => s.bindAddress = s'.bindAddress
  | .path => s.webhook.path = s'.webhook.path
  | .secret => s.webhook.secret = s'.webhook.secret
  | .positive which => s.positive which = s'.positive which
  | .metrics => s.reports.metricsEnabled = s'.reports.metricsEnabled ∧
      s.reports.metricsAddress = s'.reports.metricsAddress
  | .logLevel => s.reports.logLevel = s'.reports.logLevel

section

variable [Log.PatternSyntax]

/-- **A problem by its rule**: the value that it tells of is the one that is set, and cannot be used. -/
def Has (s : Settings) : Problem → Prop
  | .bindAddress value => value = s.bindAddress ∧ Net.SocketAddress.parse? value = none
  | .webhookPath value => value = s.webhook.path ∧ ¬ IsUsablePath value
  | .reservedPath value => value = s.webhook.path ∧ IsUsablePath value ∧ value = healthPath
  | .emptySecret => s.webhook.secret = some ""
  | .zero which => s.positive which = 0
  | .metricsAddress value =>
    s.reports.metricsEnabled = true ∧ value = s.reports.metricsAddress ∧ Net.SocketAddress.parse? value = none
  | .logLevel value => value = s.reports.logLevel ∧ Log.Filter.parse? value = none

/-- **A problem depends on its own setting alone.** -/
theorem has_congr (h : s.AgreeOn s' p.setting) : s.Has p ↔ s'.Has p := by
  cases p with
  | bindAddress value | webhookPath value | reservedPath value | emptySecret | zero which | logLevel value =>
    rw [Problem.setting, AgreeOn] at h
    rw [Has, Has, h]
  | metricsAddress value =>
    obtain ⟨henabled, haddress⟩ := h
    rw [Has, Has, henabled, haddress]

/-! ## What is reported -/

/-- The check of one setting. -/
def check (s : Settings) : Setting → Option Problem
  | .bindAddress =>
    if (Net.SocketAddress.parse? s.bindAddress).isNone then some (.bindAddress s.bindAddress) else none
  | .path => pathProblem s.webhook.path
  | .secret => if s.webhook.secret = some "" then some .emptySecret else none
  | .positive which => zeroProblem which (s.positive which)
  | .metrics =>
    if s.reports.metricsEnabled ∧ (Net.SocketAddress.parse? s.reports.metricsAddress).isNone then
      some (.metricsAddress s.reports.metricsAddress)
    else none
  | .logLevel => if (Log.Filter.parse? s.reports.logLevel).isNone then some (.logLevel s.reports.logLevel) else none

theorem checks_eq (s : Settings) : s.checks = Setting.all.map s.check := rfl

theorem problems_eq (s : Settings) : s.problems = Setting.all.filterMap s.check := by
  rw [problems, checks_eq, List.filterMap_map, Function.id_comp]

/-- What the check of a setting finds is a problem of that setting. -/
theorem has_of_check {k : Setting} (h : s.check k = some p) : p.setting = k ∧ s.Has p := by
  cases k with
  | bindAddress =>
    obtain ⟨hnone, rfl⟩ := Option.ite_some_none_eq_some.1 h
    exact ⟨rfl, rfl, Option.isNone_iff_eq_none.1 hnone⟩
  | path =>
    rcases pathProblem_eq_some_iff.1 h with ⟨hpath, rfl⟩ | ⟨hpath, hhealth, rfl⟩
    · exact ⟨rfl, rfl, hpath⟩
    · exact ⟨rfl, rfl, hpath, hhealth⟩
  | secret =>
    obtain ⟨hempty, rfl⟩ := Option.ite_some_none_eq_some.1 h
    exact ⟨rfl, hempty⟩
  | positive which =>
    obtain ⟨hzero, rfl⟩ := zeroProblem_eq_some_iff.1 h
    exact ⟨rfl, hzero⟩
  | metrics =>
    obtain ⟨⟨henabled, hnone⟩, rfl⟩ := Option.ite_some_none_eq_some.1 h
    exact ⟨rfl, henabled, rfl, Option.isNone_iff_eq_none.1 hnone⟩
  | logLevel =>
    obtain ⟨hnone, rfl⟩ := Option.ite_some_none_eq_some.1 h
    exact ⟨rfl, rfl, Option.isNone_iff_eq_none.1 hnone⟩

/-- **The check of a setting finds its problem.** -/
theorem check_of_has (h : s.Has p) : s.check p.setting = some p := by
  cases p with
  | bindAddress value =>
    obtain ⟨rfl, hnone⟩ := h
    exact if_pos (Option.isNone_iff_eq_none.2 hnone)
  | webhookPath value =>
    obtain ⟨rfl, hpath⟩ := h
    exact pathProblem_eq_some_iff.2 (.inl ⟨hpath, rfl⟩)
  | reservedPath value =>
    obtain ⟨rfl, hpath, hhealth⟩ := h
    exact pathProblem_eq_some_iff.2 (.inr ⟨hpath, hhealth, rfl⟩)
  | emptySecret => exact if_pos h
  | zero which => exact if_pos h
  | metricsAddress value =>
    obtain ⟨henabled, rfl, hnone⟩ := h
    exact if_pos ⟨henabled, Option.isNone_iff_eq_none.2 hnone⟩
  | logLevel value =>
    obtain ⟨rfl, hnone⟩ := h
    exact if_pos (Option.isNone_iff_eq_none.2 hnone)

/-- There is no problem with a setting exactly if its check finds none. -/
theorem check_eq_none_iff {k : Setting} : s.check k = none ↔ ∀ p, s.Has p → p.setting ≠ k := by
  constructor
  · rintro hnone p hp rfl
    exact (nomatch hnone.symm.trans (check_of_has hp))
  · intro h
    cases hcheck : s.check k with
    | none => rfl
    | some p =>
      obtain ⟨hk, hp⟩ := has_of_check hcheck
      exact absurd hk (h p hp)

/-- **A list of all problems and no others**, each once and in the order of the checks. -/
structure Diagnosis (s : Settings) (problems : List Problem) : Prop where
  complete : ∀ p, p ∈ problems ↔ s.Has p
  ordered : problems.Pairwise Problem.Precedes

/-- **Every problem is reported**, and nothing else. -/
theorem diagnosis_problems (s : Settings) : s.Diagnosis s.problems := by
  rw [problems_eq]
  refine ⟨fun p => ?_, Setting.pairwise_all.filterMap s.check fun j k hjk p hp q hq => ?_⟩
  · rw [List.mem_filterMap]
    constructor
    · rintro ⟨k, -, hp⟩
      exact (has_of_check hp).2
    · intro hp
      exact ⟨p.setting, Setting.mem_all _, check_of_has hp⟩
  · rw [Problem.Precedes, (has_of_check hp).1, (has_of_check hq).1]
    exact hjk

/-- There is only one such list. -/
theorem Diagnosis.unique {ps qs : List Problem} (hp : s.Diagnosis ps) (hq : s.Diagnosis qs) : ps = qs := by
  have hnodup {l : List Problem} (hl : s.Diagnosis l) : l.Nodup :=
    hl.ordered.imp fun hlt heq => absurd (heq ▸ hlt) (Nat.lt_irrefl _)
  have hperm : ps.Perm qs := (List.perm_ext_iff_of_nodup (hnodup hp) (hnodup hq)).2 fun p =>
    (hp.complete p).trans (hq.complete p).symm
  exact hperm.eq_of_pairwise (fun _ _ _ _ hlt hgt => absurd hgt (Nat.lt_asymm hlt)) hp.ordered hq.ordered

/-- **Who repairs one setting is rid of its problem and of no other.** -/
theorem problems_repaired {k : Setting} (hsame : ∀ j, j ≠ k → s.AgreeOn s' j)
    (hrepaired : ∀ p, s'.Has p → p.setting ≠ k) : s'.problems = s.problems.filter (·.setting ≠ k) := by
  refine (diagnosis_problems s').unique ⟨fun p => ?_, (diagnosis_problems s).ordered.filter _⟩
  rw [List.mem_filter, (diagnosis_problems s).complete, decide_eq_true_eq]
  constructor
  · rintro ⟨hp, hne⟩
    exact (has_congr (hsame _ hne)).1 hp
  · intro hp
    have hne := hrepaired p hp
    exact ⟨(has_congr (hsame _ hne)).2 hp, hne⟩

/-- Settings are good or refused with the whole list. -/
theorem validate_eq (s : Settings) :
    s.validate = if s.problems = [] then .ok s else .error (.invalid s.problems) := by
  simp only [validate, List.isEmpty_iff]

set_option maxRecDepth 20000 in
/-- The filter that is set by default is one. -/
theorem isNone_parse?_info : (Log.Filter.parse? "info").isNone = false := by cbv

set_option maxRecDepth 20000 in
/-- The defaults leave only the secret and the limit to be wrong. -/
theorem problems_webhook (rules : Routing.Rules) (secret : Option String) (bodyLimit : ℕ) :
    ({ webhook := { secret, bodyLimit }, rules } : Settings).problems =
      (if secret = some "" then [.emptySecret] else []) ++ if bodyLimit = 0 then [.zero .bodyLimit] else [] := by
  have haddress : (Net.SocketAddress.parse? "0.0.0.0:8080").isNone = false := by cbv
  have hpath : isWebhookPath "/webhook" = true := by decide +kernel
  by_cases hsecret : secret = some "" <;> by_cases hlimit : bodyLimit = 0 <;>
    simp [problems, checks, pathProblem, zeroProblem, healthPath, haddress, hpath, isNone_parse?_info, hsecret,
      hlimit]

end

/-! ## What is loaded -/

/-- Settings in which the environment replaced the secret and the address of the queue, and **nothing else
changed**. -/
structure Replaced (env : Environment) (s s' : Settings) : Prop where
  secret : s'.webhook.secret = env.secret.or s.webhook.secret
  url : s'.queue.url = env.queueUrl.getD s.queue.url
  rest : { s' with webhook := { s'.webhook with secret := s.webhook.secret }
                   queue := { s'.queue with url := s.queue.url } } = s

theorem replaced_iff {env : Environment} : Replaced env s s' ↔ s' = s.override env := by
  constructor
  · rintro ⟨hsecret, hurl, hrest⟩
    rw [override, ← hsecret, ← hurl, ← hrest]
  · rintro rfl
    exact ⟨rfl, rfl, rfl⟩

/-- **A text is parsed, the environment replaces what it sets, and what comes of that is checked.** -/
theorem load_ofString [Log.PatternSyntax] (text : String) (env : Environment) :
    load (some (Bytes.ofString text)) env = (parse text).bind fun s => (s.override env).validate := by
  rw [load, readText, Bytes.toString?_ofString]
  rfl

/-- **What is loaded is what was parsed, with what the environment sets, if there is no problem with that.** -/
theorem load_ok_iff [Log.PatternSyntax] {text : String} {env : Environment} :
    load (some (Bytes.ofString text)) env = .ok s' ↔
      ∃ s, parse text = .ok s ∧ Replaced env s s' ∧ s'.problems = [] := by
  rw [load_ofString]
  cases parse text with
  | error fault => exact ⟨(nomatch ·), fun ⟨_, hparsed, _⟩ => (nomatch hparsed)⟩
  | ok s =>
    simp only [replaced_iff, Except.bind, validate_eq]
    constructor
    · intro h
      split at h
      · rename_i hproblems
        obtain rfl := Except.ok.inj h
        exact ⟨s, rfl, rfl, hproblems⟩
      · exact (nomatch h)
    · rintro ⟨t, hparsed, rfl, hproblems⟩
      obtain rfl := Except.ok.inj hparsed
      rw [if_pos hproblems]

/-- **Every problem is reported, and what is checked is what is used.** The problems of settings are all those whose
rule is broken by the value of their own setting and no others, each once and in the order of the checks; settings
are accepted if there is none, and otherwise refused with the whole list. To repair one setting, whatever its
problem was, takes that problem from the list and leaves the others. Of every text and in every environment settings
are loaded if and only if the text is parsed and there is no problem once the environment has replaced the secret
and the address of the queue; and what is loaded is then what was checked, in all else the settings of the text. All
this holds whichever patterns a log filter may use. -/
theorem checked_as_used [Log.PatternSyntax] :
    (∀ s : Settings, s.Diagnosis s.problems ∧
      s.validate = (if s.problems = [] then .ok s else .error (.invalid s.problems)) ∧
      ∀ (k : Setting) (s' : Settings), (∀ j, j ≠ k → s.AgreeOn s' j) → (∀ p, s'.Has p → p.setting ≠ k) →
        s'.problems = s.problems.filter (·.setting ≠ k)) ∧
    ∀ (text : String) (env : Environment),
      (∀ s', load (some (Bytes.ofString text)) env = .ok s' ↔
        ∃ s, parse text = .ok s ∧ Replaced env s s' ∧ s'.problems = []) ∧
      (∀ s, parse text = .ok s → ∃ s', Replaced env s s' ∧ load (some (Bytes.ofString text)) env = s'.validate) ∧
      ∀ fault, parse text = .error fault → load (some (Bytes.ofString text)) env = .error fault := by
  refine ⟨fun s => ⟨diagnosis_problems s, validate_eq s, fun k s' => problems_repaired⟩, fun text env =>
    ⟨fun s' => load_ok_iff, fun s hparsed => ⟨s.override env, replaced_iff.2 rfl, ?_⟩, fun fault hparsed => ?_⟩⟩
  · rw [load_ofString, hparsed]
    rfl
  · rw [load_ofString, hparsed]
    rfl

/-- Of three problems two are left when the third is repaired. A file with an empty secret is refused for that, and is
good for all else that it says if the environment has another secret. -/
theorem checked_as_used_emptySecret :
    let s : Settings := { bindAddress := "localhost", webhook := { path := "webhook" }, requestSeconds := 0 }
    let file := "[webhook]\nsecret = \"\"\nmax_body_size = 10\n"
    s.problems = [.bindAddress "localhost", .webhookPath "webhook", .zero .requestSeconds] ∧
      ({ s with requestSeconds := 1 } : Settings).problems = [.bindAddress "localhost", .webhookPath "webhook"] ∧
      load (some (Bytes.ofString file)) {} = .error (.invalid [.emptySecret]) ∧
      load (some (Bytes.ofString file)) { secret := some "s" } =
        .ok { webhook := { secret := some "s", bodyLimit := 10 } } := by
  intro s file
  have hlocal : Net.SocketAddress.parse? "localhost" = none := by cbv
  have hunusable : isWebhookPath "webhook" = false := by cbv
  have hs : s.problems = [.bindAddress "localhost", .webhookPath "webhook", .zero .requestSeconds] := by
    simp [s, problems, checks, pathProblem, zeroProblem, hlocal, hunusable, isNone_parse?_info]
  have hparsed : parse file = .ok { webhook := { secret := some "", bodyLimit := 10 } } := by decide +kernel
  have hspoiled : ({ webhook := { secret := some "", bodyLimit := 10 } } : Settings).problems = [.emptySecret] :=
    problems_webhook {} (some "") 10
  have hgood : ({ webhook := { secret := some "s", bodyLimit := 10 } } : Settings).problems = [] :=
    problems_webhook {} (some "s") 10
  obtain ⟨hreports, hloads⟩ := checked_as_used
  obtain ⟨-, -, hrepairs⟩ := hreports s
  obtain ⟨-, hvalidate, -⟩ := hreports { webhook := { secret := some "", bodyLimit := 10 } }
  refine ⟨hs, ?_, ?_, ?_⟩
  · rw [hrepairs (.positive .requestSeconds) { s with requestSeconds := 1 } ?_ (check_eq_none_iff.1 rfl), hs]
    · rfl
    · intro j hj
      cases j with
      | positive which =>
        cases which with
        | requestSeconds => exact absurd rfl hj
        | bodyLimit | queueCapacity => rfl
      | metrics => exact ⟨rfl, rfl⟩
      | bindAddress | path | secret | logLevel => rfl
  · obtain ⟨-, hchecked, -⟩ := hloads file {}
    obtain ⟨s', hreplaced, hload⟩ := hchecked _ hparsed
    obtain rfl := replaced_iff.1 hreplaced
    rw [hload]
    exact hvalidate.trans (by rw [hspoiled]; rfl)
  · exact ((hloads file { secret := some "s" }).1 _).2 ⟨_, hparsed, replaced_iff.2 rfl, hgood⟩

end Settings

end RunnerDispatch
