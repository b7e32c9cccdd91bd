import CachedDirectory.Proofs.ScaledDelays
import Mathlib.Data.Nat.Find

/-!
# Which attempt ends a call

A call goes on from one attempt to the next until one of them succeeds, fails
for good, or is the last that its policy permits. Beside the loop stands the
sequence of its states, told without any rounds: what an attempt finds, and
which delay follows it. The loop makes an attempt exactly if none before it was
the last one and there is a delay in front of it; from that follows how every
call ends.
-/

namespace CachedDirectory

namespace RetryPolicy

variable {σ α : Type}

/-- Whether an answer ends a call whatever its policy: a success, or a failure
for good. -/
def IsDecisive (answer : Answer α) : Prop :=
  (∃ value, answer = .ok value) ∨ ∃ error,
    answer = .error error ∧ error.isRetryable = false

theorem mayMend_eq_false_iff {answer : Answer α} :
    mayMend answer = false ↔ IsDecisive answer := by
  cases answer with
  | ok value => simp [mayMend, IsDecisive]
  | error error => simp [mayMend, IsDecisive]

/-- Whether the attempt that follows that many others ends a call: its answer is
decisive, or it is the last that is permitted. -/
def Ends (policy : RetryPolicy) (answers : Nat → Answer α) (made : Nat) :
    Prop :=
  IsDecisive (answers made) ∨ policy.attempts? = some (made + 1)

/-- Whether none of so many attempts ends a call. -/
def IsOpen (policy : RetryPolicy) (answers : Nat → Answer α) (made : Nat) :
    Prop :=
  ∀ earlier < made, ¬policy.Ends answers earlier

/-- Whether the attempt that follows that many others is the first that ends a
call. -/
def IsLast (policy : RetryPolicy) (answers : Nat → Answer α) (made : Nat) :
    Prop :=
  policy.Ends answers made ∧ policy.IsOpen answers made

section Steps

variable {policy : RetryPolicy} {answers : Nat → Answer α} {made : Nat}

theorem isOpen_zero : policy.IsOpen answers 0 :=
  fun _ before => absurd before (Nat.not_lt_zero _)

theorem isOpen_succ_iff :
    policy.IsOpen answers (made + 1) ↔
      policy.IsOpen answers made ∧ ¬policy.Ends answers made := by
  constructor
  · intro goesOn
    exact ⟨fun earlier before => goesOn earlier (Nat.lt_succ_of_lt before),
      goesOn made (Nat.lt_succ_self made)⟩
  · rintro ⟨goesOn, still⟩ earlier before
    rcases Nat.lt_succ_iff_lt_or_eq.mp before with sooner | rfl
    · exact goesOn earlier sooner
    · exact still

/-- If no attempt before was the last one, the loop goes on after an attempt
exactly if that is not the last one either. -/
theorem goesOn_iff (goesOn : policy.IsOpen answers made) :
    (mayMend (answers made) && policy.permits (made + 1)) = true ↔
        ¬policy.Ends answers made := by
  have permitted :
      policy.permits (made + 1) = true ↔
          policy.attempts? ≠ some (made + 1) := by
    unfold permits attempts?
    cases limited : policy.limit with
    | none => simp
    | some limit =>
        have notBefore : ¬max 1 limit < made + 1 := by
          intro before
          refine goesOn (max 1 limit - 1) (by omega) (Or.inr ?_)
          rw [attempts?, limited, Option.map_some, Option.some_inj]
          omega
        simp only [decide_eq_true_eq, Option.map_some, ne_eq, Option.some_inj]
        omega
  rw [Bool.and_eq_true, permitted, Ends, not_or, ←
    mayMend_eq_false_iff, Bool.not_eq_false]

end Steps

/-! ## The sequence of states -/

section Runs

variable (policy : RetryPolicy) (attempt : σ → Answer α × σ)
  (wait : Nat → σ → σ) (start : σ)

/-- The state that the attempt finds that follows that many others. -/
def before : Nat → σ
  | 0 => start
  | made + 1 => wait ((policy.delay? made).getD 0) (attempt (before made)).2

/-- The answer of the attempt that follows that many others. -/
def answerAt (made : Nat) : Answer α :=
  (attempt (policy.before attempt wait start made)).1

/-- The loop after so many rounds that did not end the call. -/
theorem runWithin_add {made delay : Nat}
    (goesOn : policy.IsOpen (policy.answerAt attempt wait start) made)
    (next : policy.delay? made = some delay) (rounds : Nat) :
    policy.runWithin attempt wait (made + rounds) 0 policy.initialDelay start =
      policy.runWithin attempt wait rounds made delay
          (policy.before attempt wait start made) := by
  induction made generalizing delay rounds with
  | zero =>
      cases next
      rw [Nat.zero_add, before]
  | succ made inductionHypothesis =>
      obtain ⟨earlier, still⟩ := isOpen_succ_iff.mp goesOn
      obtain ⟨last, known, scaled⟩ := Option.bind_eq_some_iff.mp next
      have onward := (goesOn_iff earlier).mpr still
      rw [answerAt] at onward
      rw [Nat.add_right_comm, Nat.add_assoc, inductionHypothesis earlier known,
        runWithin, before, known]
      simp only [onward, if_true, scaled, Option.getD_some]

/-- A call that is not ended by so many rounds is unfinished. -/
theorem runWithin_of_isOpen {made : Nat}
    (goesOn : policy.IsOpen (policy.answerAt attempt wait start) made)
    (has : policy.HasDelay made) :
    policy.runWithin attempt wait made 0 policy.initialDelay start =
      (.unfinished, policy.before attempt wait start made) := by
  obtain ⟨delay, next⟩ := has
  rw [← Nat.add_zero made,
    policy.runWithin_add attempt wait start goesOn next 0, Nat.add_zero,
    runWithin]

/-- A call that comes to its last attempt has the answer of that. -/
theorem runWithin_of_isLast {last rounds : Nat}
    (final : policy.IsLast (policy.answerAt attempt wait start) last)
    (has : policy.HasDelay last) (enough : last < rounds) :
    policy.runWithin attempt wait rounds 0 policy.initialDelay start =
      (.answered (policy.answerAt attempt wait start last),
        (attempt (policy.before attempt wait start last)).2) := by
  obtain ⟨ends, goesOn⟩ := final
  obtain ⟨delay, next⟩ := has
  obtain ⟨further, rfl⟩ := Nat.exists_eq_add_of_lt enough
  have stops :=
    Bool.eq_false_iff.mpr ((goesOn_iff goesOn).not.mpr (not_not_intro ends))
  rw [answerAt] at stops
  rw [Nat.add_assoc, policy.runWithin_add attempt wait start goesOn next,
    runWithin, answerAt]
  simp only [stops, Bool.false_eq_true, if_false]

/-- A call that has no delay in front of its next attempt is stranded. -/
theorem runWithin_of_stranded {made rounds : Nat}
    (goesOn : policy.IsOpen (policy.answerAt attempt wait start) (made + 1))
    (has : policy.HasDelay made) (lacks : ¬policy.HasDelay (made + 1))
    (enough : made < rounds) :
    policy.runWithin attempt wait rounds 0 policy.initialDelay start =
      (.stranded, policy.before attempt wait start (made + 1)) := by
  obtain ⟨earlier, still⟩ := isOpen_succ_iff.mp goesOn
  obtain ⟨delay, next⟩ := has
  obtain ⟨further, rfl⟩ := Nat.exists_eq_add_of_lt enough
  have onward := (goesOn_iff earlier).mpr still
  rw [answerAt] at onward
  have scaled : policy.nextDelay? delay = none := by
    refine Option.eq_none_iff_forall_ne_some.mpr fun longer found =>
      lacks ⟨longer, ?_⟩
    rw [delay?, next, Option.bind_some, found]
  rw [Nat.add_assoc, policy.runWithin_add attempt wait start earlier next,
    runWithin, before, next]
  simp only [onward, if_true, scaled, Option.getD_some]

/-- A call is not ended by so many rounds, or comes to its last attempt, or is
stranded before. -/
theorem exists_course (answers : Nat → Answer α) (rounds : Nat) :
    (policy.IsOpen answers rounds ∧ policy.HasDelay rounds) ∨
      (∃ last < rounds, policy.IsLast answers last ∧ policy.HasDelay last) ∨
        ∃ made < rounds,
          policy.IsOpen answers (made + 1) ∧ policy.HasDelay made ∧
          ¬policy.HasDelay (made + 1) := by
  induction rounds with
  | zero => exact Or.inl ⟨isOpen_zero, policy.initialDelay, rfl⟩
  | succ rounds inductionHypothesis =>
      have within := Nat.lt_succ_self rounds
      rcases inductionHypothesis with
        ⟨goesOn, has⟩ | ⟨last, before, final⟩ | ⟨made, before, stuck⟩
      · by_cases ends : policy.Ends answers rounds
        · exact Or.inr (Or.inl ⟨rounds, within, ⟨ends, goesOn⟩, has⟩)
        · have further := isOpen_succ_iff.mpr ⟨goesOn, ends⟩
          by_cases more : policy.HasDelay (rounds + 1)
          · exact Or.inl ⟨further, more⟩
          · exact Or.inr (Or.inr ⟨rounds, within, further, has, more⟩)
      · exact Or.inr (Or.inl ⟨last, Nat.lt_succ_of_lt before, final⟩)
      · exact Or.inr (Or.inr ⟨made, Nat.lt_succ_of_lt before, stuck⟩)

end Runs

/-! ## Recorded calls -/

section Records

variable (policy : RetryPolicy) (answers : Nat → Answer α)

/-- What is recorded in front of the attempt that follows that many others. -/
def logBefore (made : Nat) : CallLog :=
  policy.before (CallLog.attempt answers) CallLog.wait {} made

theorem length_starts_logBefore (made : Nat) :
    (policy.logBefore answers made).starts.length = made := by
  induction made with
  | zero => rfl
  | succ made inductionHypothesis => exact congrArg (· + 1) inductionHypothesis

theorem answerAt_log :
    policy.answerAt (CallLog.attempt answers) CallLog.wait {} = answers := by
  funext made
  exact congrArg answers (policy.length_starts_logBefore answers made)

/-- What is recorded of a call, in each of the three courses that it can
take. -/
theorem rehearse_cases (rounds : Nat) :
    (policy.IsOpen answers rounds ∧ policy.HasDelay rounds ∧
        policy.rehearse answers rounds =
          (.unfinished, policy.logBefore answers rounds)) ∨
      (∃ last < rounds, policy.IsLast answers last ∧ policy.HasDelay last ∧
          policy.rehearse answers rounds =
            (.answered (answers last),
              (CallLog.attempt answers (policy.logBefore answers last)).2)) ∨
        ∃ made < rounds,
          policy.IsOpen answers (made + 1) ∧ policy.HasDelay made ∧
          ¬policy.HasDelay (made + 1) ∧
            policy.rehearse answers rounds =
                (.stranded, policy.logBefore answers (made + 1)) := by
  have same := policy.answerAt_log answers
  rcases policy.exists_course answers rounds with
    ⟨goesOn, has⟩ | ⟨last, enough, final, has⟩
      | ⟨made, enough, goesOn, has, lacks⟩
  · have ran :=
      policy.runWithin_of_isOpen (CallLog.attempt answers) CallLog.wait {}
      (by rwa [same]) has
    exact Or.inl ⟨goesOn, has, ran⟩
  · have ran :=
      policy.runWithin_of_isLast (CallLog.attempt answers) CallLog.wait {}
      (by rwa [same]) has enough
    rw [same] at ran
    exact Or.inr (Or.inl ⟨last, enough, final, has, ran⟩)
  · have ran :=
      policy.runWithin_of_stranded (CallLog.attempt answers) CallLog.wait {}
      (by rwa [same]) has lacks enough
    exact Or.inr (Or.inr ⟨made, enough, goesOn, has, lacks, ran⟩)

/-- Whether a call returns an answer after so many attempts. -/
def Returns (answer : Answer α) (attempts : Nat) : Prop :=
  ∃ rounds log,
    policy.rehearse answers rounds = (.answered answer, log) ∧
      log.starts.length = attempts

/-- Whether a call is stranded after so many attempts. -/
def Strands (attempts : Nat) : Prop :=
  ∃ rounds log,
    policy.rehearse answers rounds = (.stranded, log) ∧
      log.starts.length = attempts

theorem length_starts_attempt (made : Nat) :
    (CallLog.attempt answers (policy.logBefore answers made)).2.starts.length =
        made + 1 :=
  congrArg (· + 1) (policy.length_starts_logBefore answers made)

theorem returns_iff (answer : Answer α) (attempts : Nat) :
    policy.Returns answers answer attempts ↔
      ∃ last,
        policy.IsLast answers last ∧ policy.HasDelay last ∧
          answer = answers last ∧
        attempts = last + 1 := by
  constructor
  · rintro ⟨rounds, log, ran, rfl⟩
    rcases policy.rehearse_cases answers rounds with
      ⟨_, _, other⟩ | ⟨last, _, final, has, same⟩ | ⟨_, _, _, _, _, other⟩
    · cases ran.symm.trans other
    · cases ran.symm.trans same
      exact ⟨last, final, has, rfl, policy.length_starts_attempt answers last⟩
    · cases ran.symm.trans other
  · rintro ⟨last, final, has, rfl, rfl⟩
    have ran :=
      policy.runWithin_of_isLast (CallLog.attempt answers) CallLog.wait {}
      (by rwa [policy.answerAt_log]) has (Nat.lt_succ_self last)
    rw [policy.answerAt_log] at ran
    exact ⟨last + 1, _, ran, policy.length_starts_attempt answers last⟩

theorem strands_iff (attempts : Nat) :
    policy.Strands answers attempts ↔
      ∃ made, policy.IsOpen answers (made + 1) ∧ policy.HasDelay made ∧
        ¬policy.HasDelay (made + 1) ∧ attempts = made + 1 := by
  constructor
  · rintro ⟨rounds, log, ran, rfl⟩
    rcases policy.rehearse_cases answers rounds with
      ⟨_, _, other⟩ | ⟨_, _, _, _, other⟩ | ⟨made, _, goesOn, has, lacks, same⟩
    · cases ran.symm.trans other
    · cases ran.symm.trans other
    · cases ran.symm.trans same
      exact ⟨made, goesOn, has, lacks,
        policy.length_starts_logBefore answers (made + 1)⟩
  · rintro ⟨made, goesOn, has, lacks, rfl⟩
    have ran :=
      policy.runWithin_of_stranded (CallLog.attempt answers) CallLog.wait {}
      (by rwa [policy.answerAt_log]) has lacks (Nat.lt_succ_self made)
    exact ⟨made + 1, _, ran, policy.length_starts_logBefore answers (made + 1)⟩

/-- Some attempt is the last one exactly if their number is limited or some
answer is decisive. -/
theorem exists_isLast_iff :
    (∃ last, policy.IsLast answers last) ↔
      policy.limit ≠ none ∨ ∃ made, IsDecisive (answers made) := by
  constructor
  · rintro ⟨last, decisive | limited, _⟩
    · exact Or.inr ⟨last, decisive⟩
    · left
      intro unlimited
      rw [attempts?, unlimited] at limited
      cases limited
  · intro either
    have ends : ∃ made, policy.Ends answers made := by
      rcases either with limited | ⟨made, decisive⟩
      · obtain ⟨limit, known⟩ := Option.ne_none_iff_exists'.mp limited
        refine ⟨max 1 limit - 1, Or.inr ?_⟩
        rw [attempts?, known, Option.map_some, Option.some_inj]
        omega
      · exact ⟨made, Or.inl decisive⟩
    classical
    exact ⟨Nat.find ends, Nat.find_spec ends,
      fun _ before => Nat.find_min ends before⟩

/-- A call returns the answer of its last attempt, and makes that attempt and
those before it, if there is a delay in front of each; if there is none in front
of the next one, it is stranded. Some attempt is the last one if their number is
limited or some answer is decisive, and delays are there if the policy is
moderate. -/
theorem call_ends_with_last_attempt :
    (∀ answer attempts,
        policy.Returns answers answer attempts ↔
          ∃ last,
            policy.IsLast answers last ∧ policy.HasDelay last ∧
              answer = answers last ∧
            attempts = last + 1) ∧
      (∀ attempts,
        policy.Strands answers attempts ↔
          ∃ made, policy.IsOpen answers (made + 1) ∧ policy.HasDelay made ∧
            ¬policy.HasDelay (made + 1) ∧ attempts = made + 1) ∧
        ((∃ last, policy.IsLast answers last) ↔
          policy.limit ≠ none ∨ ∃ made, IsDecisive (answers made)) ∧
          (policy.IsModerate → ∀ made, policy.HasDelay made) :=
  ⟨policy.returns_iff answers, policy.strands_iff answers,
    policy.exists_isLast_iff answers,
    IsModerate.hasDelay⟩

end Records

theorem ofName?_cases {name : String} {policy : RetryPolicy}
    (named : ofName? name = some policy) :
    policy = startup ∨ policy = query := by
  unfold ofName? at named
  split at named <;> cases named
  · exact Or.inl rfl
  · exact Or.inr rfl
  · exact Or.inr rfl

/-- The policies with names are moderate. -/
theorem isModerate_of_ofName? {name : String} {policy : RetryPolicy}
    (named : ofName? name = some policy) : policy.IsModerate := by
  rcases ofName?_cases named with rfl | rfl
  · exact ⟨2, rfl, by norm_num, by norm_num [startup, millisecond, second]⟩
  · exact ⟨2, rfl, by norm_num, by norm_num [query, millisecond, second]⟩

theorem isModerate_query : query.IsModerate :=
  isModerate_of_ofName? (show ofName? "query" = some query from rfl)

/-- Answers of which the first one may be mended and the second one is a
success. -/
def mendedAnswers : Nat → Answer Nat
  | 0 => .error (.accessFailure "disk")
  | _ => .ok 1

theorem isLast_mendedAnswers {policy : RetryPolicy}
    (permitted : policy.attempts? ≠ some 1) :
    policy.IsLast mendedAnswers 1 := by
  refine ⟨Or.inl (Or.inl ⟨1, rfl⟩), fun earlier before => ?_⟩
  cases Nat.lt_one_iff.mp before
  rintro ((⟨value, success⟩ | ⟨error, failure, final⟩) | limited)
  · cases success
  · cases failure
    cases final
  · exact permitted limited

theorem call_ends_with_last_attempt_mended :
    query.IsModerate ∧ query.Returns mendedAnswers (.ok 1) 2 := by
  obtain ⟨returns, _, _, moderate⟩ :=
    call_ends_with_last_attempt query mendedAnswers
  exact ⟨isModerate_query, (returns (.ok 1) 2).mpr
    ⟨1, isLast_mendedAnswers (by decide), moderate isModerate_query 1,
      rfl, rfl⟩⟩

/-- A policy whose factor takes the first delay beyond the longest one, far
above its maximum. -/
def steepPolicy : RetryPolicy :=
  ⟨second, 5 * second, some 1000000000000000000000000000000, some 3⟩

/-- A call whose second attempt would succeed is stranded in front of it,
although its policy permits three and no delay may be longer than five
seconds. -/
theorem mended_call_is_stranded :
    steepPolicy.IsLast mendedAnswers 1 ∧ steepPolicy.Strands mendedAnswers 1 ∧
      ¬∃ answer attempts,
          steepPolicy.Returns mendedAnswers answer attempts := by
  have final : steepPolicy.IsLast mendedAnswers 1 :=
    isLast_mendedAnswers (by decide)
  have lacks : ¬steepPolicy.HasDelay 1 := by
    have none : steepPolicy.delay? 1 = none := by decide +kernel
    rintro ⟨delay, found⟩
    cases none.symm.trans found
  refine ⟨final, ?_, ?_⟩
  · exact (steepPolicy.strands_iff mendedAnswers 1).mpr
      ⟨0, final.2, ⟨second, rfl⟩, lacks, rfl⟩
  · rintro ⟨answer, attempts, returned⟩
    obtain ⟨last, other, has, _⟩ :=
      (steepPolicy.returns_iff mendedAnswers _ _).mp returned
    exact lacks (has.of_le
      (Nat.pos_of_ne_zero fun first => final.2 last (by omega) other.1))

/-! ## Calls to the authority -/

/-- A question to the authority is asked three times at most, and has the answer
of the attempt that is the last one. -/
theorem exists_run_query (attempt : σ → Answer α × σ) (start : σ) :
    ∃ last < 3,
      query.IsLast (query.answerAt attempt (fun _ after => after) start) last ∧
        query.run attempt start =
          (query.answerAt attempt (fun _ after => after) start last,
            (attempt (query.before attempt (fun _ after => after) start
                last)).2) := by
  obtain ⟨last, final⟩ := (query.exists_isLast_iff
    (query.answerAt attempt (fun _ after => after) start)).mpr
      (Or.inl (by decide))
  have within : last < 3 := by
    by_contra later
    exact final.2 2 (by omega) (Or.inr (by decide))
  refine ⟨last, within, final, ?_⟩
  have ran :=
    query.runWithin_of_isLast attempt (fun _ after => after) start final
    (isModerate_query.hasDelay last) within
  rw [run, show query.attempts?.getD 1 = 3 from rfl, ran]

end RetryPolicy

end CachedDirectory
