import LoginRisk.Proofs.Pipeline.CacheHit
import LoginRisk.Proofs.Pipeline.Counters

/-!
The events of a run. A call that blocks is reported once, whether it is computed or served; a request for feedback
is made once, by the call that has computed the answer. No call does both.
-/

namespace LoginRisk

namespace Call

variable {σ : Type}

def Blocks (settings : Settings) (c : Call σ) (p : Pipeline σ) : Prop :=
  (c.reply settings p).assessment.shouldBlock = true

instance (settings : Settings) (c : Call σ) (p : Pipeline σ) : Decidable (c.Blocks settings p) :=
  inferInstanceAs (Decidable (_ = _))

def AsksFeedback (settings : Settings) (c : Call σ) (p : Pipeline σ) : Prop :=
  (c.reply settings p).assessment.feedbackRequired = true ∧ ¬c.Served settings p

instance (settings : Settings) (c : Call σ) (p : Pipeline σ) : Decidable (c.AsksFeedback settings p) :=
  inferInstanceAs (Decidable (_ ∧ _))

def blockReport (settings : Settings) (c : Call σ) (p : Pipeline σ) : SecurityEvent :=
  let r := (c.reply settings p).assessment
  .loginBlocked r.requestId c.attempt.clientAddress.text (Text.toLower c.attempt.emailDomain) r.score
    r.threat.knownPatterns c.env.now

def feedbackRequest (settings : Settings) (c : Call σ) (p : Pipeline σ) : SecurityEvent :=
  let r := (c.reply settings p).assessment
  .feedbackRequested r.requestId c.attempt.profileKey r.score r.level c.env.now

variable {settings : Settings} {c : Call σ} {p : Pipeline σ}

lemma events_of_hit {r : Assessment} (h : (c.lookup settings p).2 = .hit r) :
    (c.reply settings p).events =
      if r.shouldBlock then SecurityEvent.ofAssessment c.attempt r c.env.now else [] := by
  simp only [lookup, key] at h
  simp only [reply, Pipeline.analyze, Pipeline.begin, h]

lemma events_of_not_served (h : ¬c.Served settings p) :
    (c.reply settings p).events =
      SecurityEvent.ofAssessment c.attempt (c.reply settings p).assessment c.env.now := by
  obtain ⟨q, -, -, hreply⟩ := reply_of_not_served h
  rw [hreply, Pipeline.conclude]
  dsimp only
  split <;> rfl

/-- No answer asks for feedback while it blocks, if no cached one does: the fallback of the pipeline blocks
nobody. -/
lemma answer_blocksSilently (h : p.Caches Assessment.BlocksSilently) :
    (c.reply settings p).assessment.BlocksSilently := by
  rcases c.reply_cases settings p with ⟨r, hr, hanswer, -⟩ | ⟨-, -, hanswer, -⟩ | ⟨-, -, hanswer, -⟩ <;>
    rw [hanswer]
  · exact h.of_hit hr
  · exact computed_blocksSilently settings c p
  · intro hblock
    cases hblock

lemma not_blocks_and_asksFeedback (h : p.Caches Assessment.BlocksSilently) :
    ¬(c.Blocks settings p ∧ c.AsksFeedback settings p) := by
  rintro ⟨hblocks, hasks, -⟩
  have hsilent : (c.reply settings p).assessment.feedbackRequired = false := answer_blocksSilently h hblocks
  rw [hsilent] at hasks
  cases hasks

lemma events_reply (h : p.Caches Assessment.BlocksSilently) :
    (c.reply settings p).events =
      if c.Blocks settings p then [c.blockReport settings p]
      else if c.AsksFeedback settings p then [c.feedbackRequest settings p] else [] := by
  have hsilent : (c.reply settings p).assessment.BlocksSilently := answer_blocksSilently h
  by_cases hserved : c.Served settings p
  · have hasks : ¬c.AsksFeedback settings p := fun hasks => hasks.2 hserved
    obtain ⟨r, hr⟩ := hserved
    have hanswer := (reply_of_hit hr).1
    rw [hanswer] at hsilent
    rw [events_of_hit hr, hsilent.events, if_neg hasks]
    simp only [Blocks, blockReport, hanswer]
  · rw [events_of_not_served hserved]
    by_cases hblocks : c.Blocks settings p
    · have hfeedback := hsilent hblocks
      have hblock : (c.reply settings p).assessment.shouldBlock = true := hblocks
      simp [SecurityEvent.ofAssessment, hblocks, hblock, hfeedback, blockReport]
    · have hblock : ¬(c.reply settings p).assessment.shouldBlock = true := hblocks
      simp [SecurityEvent.ofAssessment, hblocks, hblock, hserved, AsksFeedback, feedbackRequest]

end Call

namespace Pipeline

variable {σ : Type}

def emitted (settings : Settings) (p : Pipeline σ) : List (PipelineEvent σ) → List SecurityEvent
  | [] => []
  | .call c :: rest => (c.reply settings p).events ++ emitted settings (p.step settings (.call c)) rest
  | e :: rest => emitted settings (p.step settings e) rest

variable {settings : Settings} {p : Pipeline σ}

lemma emitted_eq (events : List (PipelineEvent σ)) :
    emitted settings p events = (visits settings p events).flatMap fun v => (v.1.reply settings v.2).events := by
  induction events generalizing p with
  | nil => rfl
  | cons e rest ih => cases e <;> simp [emitted, visits, ih]

lemma answers_eq (events : List (PipelineEvent σ)) :
    answers settings p events = (visits settings p events).map fun v => (v.1.reply settings v.2).assessment := by
  induction events generalizing p with
  | nil => rfl
  | cons e rest ih => cases e <;> simp [answers, visits, ih]

lemma caches_of_mem_visits {P : Assessment → Prop}
    (hP : ∀ (c : Call σ) (q : Pipeline σ), ¬c.Overflows settings q → P (c.computed settings q))
    {events : List (PipelineEvent σ)} (h : p.Caches P) (hevents : ∀ e ∈ events, e.isInsertion = false)
    {v : Call σ × Pipeline σ} (hv : v ∈ visits settings p events) : v.2.Caches P := by
  induction events generalizing p with
  | nil => cases hv
  | cons e rest ih =>
    rw [List.forall_mem_cons] at hevents
    have hstep : (p.step settings e).Caches P := caches_step hP h hevents.1
    cases e with
    | call c =>
      rcases List.mem_cons.mp hv with rfl | hv
      · exact h
      · exact ih hstep hevents.2 hv
    | cleanup analyzers env => exact ih hstep hevents.2 hv
    | insertion clock key r => cases hevents.1

/-- Items that each give rise to a thing of the one kind or of the other or to none. -/
lemma flatMap_perm_of_exclusive {α β : Type} {P Q : α → Prop} [DecidablePred P] [DecidablePred Q] {f g : α → β}
    {xs : List α} (h : ∀ x ∈ xs, ¬(P x ∧ Q x)) :
    (xs.flatMap fun x => if P x then [f x] else if Q x then [g x] else []).Perm
      ((xs.filter P).map f ++ (xs.filter Q).map g) := by
  induction xs with
  | nil => exact .nil
  | cons x xs ih =>
    rw [List.forall_mem_cons] at h
    have hrest := ih h.2
    rw [List.flatMap_cons, List.filter_cons, List.filter_cons]
    by_cases hP : P x
    · have hQ : ¬Q x := fun hQ => h.1 ⟨hP, hQ⟩
      simpa [hP, hQ] using hrest
    · by_cases hQ : Q x
      · simpa [hP, hQ] using (hrest.cons (g x)).trans List.perm_middle.symm
      · simpa [hP, hQ] using hrest

/-- Whatever is configured and whatever the analyzers do, the events of a run are one report for each call that
blocks and one request for each computed call that has to be confirmed. Each stands for the answer of its call,
and no call gives rise to two. -/
theorem events_of_run (settings : Settings) (s : σ) (events : List (PipelineEvent σ))
    (hevents : ∀ e ∈ events, e.isInsertion = false) :
    let calls := visits settings (initial s) events
    answers settings (initial s) events = calls.map (fun v => (v.1.reply settings v.2).assessment) ∧
    (emitted settings (initial s) events).Perm
      ((calls.filter fun v => v.1.Blocks settings v.2).map (fun v => v.1.blockReport settings v.2) ++
        (calls.filter fun v => v.1.AsksFeedback settings v.2).map fun v => v.1.feedbackRequest settings v.2) ∧
    ∀ v ∈ calls, ¬(v.1.Blocks settings v.2 ∧ v.1.AsksFeedback settings v.2) ∧
      (v.1.reply settings v.2).events =
        if v.1.Blocks settings v.2 then [v.1.blockReport settings v.2]
        else if v.1.AsksFeedback settings v.2 then [v.1.feedbackRequest settings v.2] else [] := by
  intro calls
  have hcaches (v : Call σ × Pipeline σ) (hv : v ∈ calls) : v.2.Caches Assessment.BlocksSilently :=
    caches_of_mem_visits (fun c q _ => c.computed_blocksSilently settings q) (caches_initial _ s) hevents hv
  have hexclusive : ∀ v ∈ calls, ¬(v.1.Blocks settings v.2 ∧ v.1.AsksFeedback settings v.2) :=
    fun v hv => Call.not_blocks_and_asksFeedback (hcaches v hv)
  refine ⟨answers_eq events, ?_, fun v hv => ⟨hexclusive v hv, Call.events_reply (hcaches v hv)⟩⟩
  have hemitted : emitted settings (initial s) events = calls.flatMap fun v =>
      if v.1.Blocks settings v.2 then [v.1.blockReport settings v.2]
      else if v.1.AsksFeedback settings v.2 then [v.1.feedbackRequest settings v.2] else [] := by
    rw [emitted_eq]
    exact List.flatMap_congr fun v hv => Call.events_reply (hcaches v hv)
  rw [hemitted]
  exact flatMap_perm_of_exclusive hexclusive

/-- A failure asks for feedback, and then a blocked login is reported when it is computed and when it is
served. -/
theorem events_of_hostile_run :
    let events := [PipelineEvent.call (Call.hostile (1.0 / 0.0)), .call (Call.hostile 1.0), .call (Call.hostile 0.0)]
    (∀ e ∈ events, e.isInsertion = false) ∧
    ((emitted {} (initial ()) events).map SecurityEvent.name).Perm
      ["login_blocked", "login_blocked", "feedback_requested"] := by
  intro events
  have hevents : ∀ e ∈ events, e.isInsertion = false := by
    simp [events, PipelineEvent.isInsertion]
  obtain ⟨-, hperm, -⟩ := events_of_run {} () events hevents
  refine ⟨hevents, (hperm.map SecurityEvent.name).trans ?_⟩
  have hnames : (((visits {} (initial ()) events).filter fun v => v.1.Blocks {} v.2).map
      fun v => v.1.blockReport {} v.2).map SecurityEvent.name = ["login_blocked", "login_blocked"] := by
    decide +kernel
  have hasked : (((visits {} (initial ()) events).filter fun v => v.1.AsksFeedback {} v.2).map
      fun v => v.1.feedbackRequest {} v.2).map SecurityEvent.name = ["feedback_requested"] := by
    decide +kernel
  rw [List.map_append, hnames, hasked]
  exact .refl _

end Pipeline

end LoginRisk
