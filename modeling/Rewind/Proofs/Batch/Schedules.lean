/-
This file proves that it makes no difference in which order the workers of a batch take their steps.
Workers race for names, and a name may be listed many times; each worker goes on with the matcher
that it has used for other files. Still every file is matched once, and the answer is what a new
matcher would report on each file alone.

One invariant carries this. A name is claimed if and only if it was matched or a worker is about to
match it, and this happens to no name twice. Every name that was taken is claimed, or a worker is
about to claim it. Every match has failed, or its report was filed, or a worker is about to file it.
-/

import Mathlib
import Rewind.Batch.Basic
import Rewind.Proofs.Matcher.Miswiring
import Rewind.Proofs.Matcher.Reuse

namespace Rewind

/-! ### Names -/

namespace Path

end Path

/-- A name has the same text in all its spellings, if it can be read at all. -/
def FileSource.Consistent (files : FileSource) : Prop :=
  ∀ name other : Path, name.components = other.components →
    ∀ text, files name = .ok text → files other = .ok text

namespace Claims

variable {claims claimed : Claims} {name : Path}

theorem report?_congr {other : Path} (same : name.components = other.components) :
    claims.report? name = claims.report? other := by
  rw [report?, report?, same]

theorem contains_cons (entry : Option Report) (other : Path) :
    contains ⟨(name.components, entry) :: claims.entries⟩ other = true ↔
      other.components = name.components ∨ claims.contains other = true := by
  unfold contains
  rw [List.lookup_cons]
  by_cases same : other.components = name.components
  · rw [beq_iff_eq.mpr same]
    exact iff_of_true rfl (.inl same)
  · rw [beq_eq_false_iff_ne.mpr same, or_iff_right same]

theorem contains_claimed (claiming : claims.claim? name = some claimed) (other : Path) :
    claimed.contains other = true ↔
      other.components = name.components ∨ claims.contains other = true := by
  unfold claim? at claiming
  split at claiming
  · cases claiming
  · cases claiming
    exact contains_cons none other

/-- A claim brings no report, and hides none. -/
theorem report?_claimed (claiming : claims.claim? name = some claimed) (other : Path) :
    claimed.report? other = claims.report? other := by
  unfold claim? at claiming
  split at claiming
  · cases claiming
  · rename_i unclaimed
    cases claiming
    unfold report?
    rw [List.lookup_cons]
    by_cases same : other.components = name.components
    · have missing : claims.entries.lookup name.components = none :=
        Option.not_isSome_iff_eq_none.mp unclaimed
      rw [same, beq_self_eq_true, missing]
      rfl
    · rw [beq_eq_false_iff_ne.mpr same]

end Claims

/-! ### What is expected -/

namespace Job

/-- What a new matcher reports on a text. -/
def reportAlone (job : Job) (text : List Char) : Except Abort Report :=
  (Matcher.ofProgram job.program job.settings).reportAlone text

/-- Whether a file cannot be read, or matching it is aborted. -/
def fails (job : Job) (name : Path) : Bool :=
  match job.files name with
  | .error _ => true
  | .ok text =>
    match job.reportAlone text with
    | .error (.failed _) => true
    | _ => false

/-- A report says of a file what a new matcher finds in it. -/
def Finds (job : Job) (name : Path) (report : Report) : Prop :=
  ∃ text found, job.files name = .ok text ∧ job.reportAlone text = .ok found ∧
    report.SameFindings found

/-- A number gets too large while a file is matched, which takes 2^32 ticks. -/
def BreaksDown (job : Job) (name : Path) : Prop :=
  ∃ text defect reached, job.files name = .ok text ∧
    Matcher.matchText text (.ofProgram job.program job.settings) = .error (.defect defect) reached ∧
    0x100000000 ≤ reached.ticks + 1

variable {job : Job} {name other : Path} {text : List Char}

/-- Nothing but a number that gets too large is a defect. -/
theorem breaksDown_of_defect {defect : Defect} (readable : job.files name = .ok text)
    (broken : job.reportAlone text = .error (.defect defect)) : job.BreaksDown name := by
  have fresh : (Matcher.ofProgram job.program job.settings).Settled 0 :=
    ⟨⟨Store.wiped_empty _, rfl⟩, (fun impossible => nomatch impossible), Nat.le_refl 0⟩
  have ends := Matcher.callEnds_perform fresh
    (.run job.program.root text (.ofSettings job.settings.run))
  change Matcher.CallEnds _ (Matcher.matchText text (.ofProgram job.program job.settings)) at ends
  unfold reportAlone Matcher.reportAlone at broken
  generalize ran : Matcher.matchText text (.ofProgram job.program job.settings) = result
    at ends broken
  cases ends with
  | failed settled expected => cases broken
  | overflow settled many counted => exact ⟨text, _, _, readable, ran, many⟩
  | @ok outcome reached settled readable =>
    have running : Matcher.run job.program.root text (.ofSettings job.settings.run)
        (.ofProgram job.program job.settings) = .ok outcome reached := ran
    have recorded := (Matcher.run_recorded running).1
    have result : ∃ tree, reached.result = .ok tree := by
      by_cases matched : outcome = .matched
      · exact readable matched
      · exact ⟨none, Matcher.result_of_unmatched fun same =>
          matched (Option.some.inj (recorded.symm.trans same))⟩
    obtain ⟨tree, read⟩ := result
    change reached.reportOn outcome = _ at broken
    rw [Matcher.reportOn, read] at broken
    cases broken

theorem Finds.congr {report : Report} (finds : job.Finds name report)
    (consistent : job.files.Consistent) (same : name.components = other.components) :
    job.Finds other report := by
  obtain ⟨text, found, readable, reported, findings⟩ := finds
  exact ⟨text, found, consistent name other same text readable, reported, findings⟩

end Job

/-! ### Where a round stands -/

/-- The name of the file that is being matched. -/
def Notice.matched? : Notice → Option Path
  | .matching name => some name
  | _ => none

/-- The name of the file that a worker has claimed and not yet matched. -/
def Worker.claimed? (worker : Worker) : Option Path :=
  match worker.phase with
  | .matching name => some name
  | _ => none

namespace Round

/-- The names of the files that were matched, as they were spelled then. -/
def matchedIn (log : List Notice) : List Path := log.filterMap Notice.matched?

theorem matchedIn_record (log : List Notice) (name : Path) (notices : List Notice) :
    matchedIn (log ++ .matching name :: notices) = matchedIn log ++ name :: matchedIn notices := by
  rw [matchedIn, List.filterMap_append]
  rfl

/-- The names of the files that were matched or are about to be. -/
def handled (log : List Notice) (workers : List Worker) : List Path :=
  matchedIn log ++ workers.filterMap Worker.claimed?

theorem handled_of_unclaimed {log : List Notice} {worker : Worker} (none : worker.claimed? = none)
    (others : List Worker) : handled log (worker :: others) = handled log others := by
  rw [handled, handled, List.filterMap_cons_none none]

theorem handled_of_claimed {log : List Notice} {worker : Worker} {name : Path}
    (some : worker.claimed? = some name) (others : List Worker) :
    (handled log (worker :: others)).Perm (name :: handled log others) := by
  rw [handled, handled, List.filterMap_cons_some some]
  exact List.perm_middle

/-- What is known of each worker. -/
structure Fits (job : Job) (names : List Path) (next : Nat) (log : List Notice) (worker : Worker) :
    Prop where
  listed : ∀ name, worker.phase = .claiming name ∨ worker.phase = .matching name → name ∈ names
  filing : ∀ name report, worker.phase = .filing name report →
    name ∈ matchedIn log ∧ job.Finds name report
  done : worker.phase = .done → names.length ≤ next
  lost : worker.phase = .lost → ∃ name ∈ names, job.BreaksDown name
  matcher : worker.phase ≠ .lost → ∀ matcher ∈ worker.matcher,
    matcher.Unused job.program job.settings

/-- What is known of a round at any time. -/
structure Orderly (job : Job) (names : List Path) (next : Nat) (claims : Claims) (log : List Notice)
    (workers : List Worker) : Prop where
  fits : ∀ worker ∈ workers, Fits job names next log worker
  /-- No file is matched twice. -/
  once : ((handled log workers).map Path.components).Nodup
  claimed : ∀ name, claims.contains name = true ↔
    name.components ∈ (handled log workers).map Path.components
  /-- No name is skipped. -/
  taken : ∀ name ∈ names.take next, claims.contains name = true ∨
    ∃ worker ∈ workers, worker.phase = .claiming name
  listed : ∀ name ∈ matchedIn log, name ∈ names
  errors : log.countP Notice.isError = (matchedIn log).countP job.fails
  /-- A report is about the file that it is filed under. -/
  filed : ∀ name report, claims.report? name = some report →
    ∃ other ∈ matchedIn log, other.components = name.components ∧ job.Finds other report
  /-- No report is lost. -/
  kept : ∀ name ∈ matchedIn log, job.fails name = true ∨ job.BreaksDown name ∨
    (∃ report, claims.report? name = some report) ∨
    ∃ worker ∈ workers, ∃ other report, worker.phase = .filing other report ∧
      other.components = name.components

variable {job : Job} {names : List Path} {next : Nat} {claims : Claims} {log : List Notice}
  {worker : Worker} {workers others : List Worker} {name : Path}

theorem Fits.mono (fits : Fits job names next log worker) {later : Nat} (notices : List Notice)
    (le : next ≤ later) : Fits job names later (log ++ notices) worker where
  listed := fits.listed
  filing name report isFiling := by
    obtain ⟨member, finds⟩ := fits.filing name report isFiling
    refine ⟨?_, finds⟩
    rw [matchedIn, List.filterMap_append]
    exact List.mem_append_left _ member
  done isDone := (fits.done isDone).trans le
  lost := fits.lost
  matcher := fits.matcher

/-- It does not matter where the workers stand. -/
theorem Orderly.perm (orderly : Orderly job names next claims log workers)
    (perm : workers.Perm others) : Orderly job names next claims log others := by
  have same : (handled log workers).Perm (handled log others) := (perm.filterMap _).append_left _
  refine ⟨fun worker member => orderly.fits worker (perm.mem_iff.mpr member),
    (same.map _).nodup orderly.once, fun name => (orderly.claimed name).trans (same.map _).mem_iff,
    fun name member => ?_, orderly.listed, orderly.errors, orderly.filed, fun name member => ?_⟩
  · refine (orderly.taken name member).imp id fun ⟨worker, present, isClaiming⟩ => ?_
    exact ⟨worker, perm.mem_iff.mp present, isClaiming⟩
  · refine (orderly.kept name member).imp id
      (Or.imp id (Or.imp id fun ⟨worker, present, isFiling⟩ => ?_))
    exact ⟨worker, perm.mem_iff.mp present, isFiling⟩

/-- A worker among the others, and another in its place. -/
theorem exists_others {index : Nat} (found : workers[index]? = some worker) :
    ∃ others, workers.Perm (worker :: others) ∧
      ∀ other, (workers.set index other).Perm (other :: others) := by
  obtain ⟨inside, rfl⟩ := List.getElem?_eq_some_iff.mp found
  refine ⟨workers.take index ++ workers.drop (index + 1), ?_, fun other => ?_⟩
  · conv_lhs => rw [← List.take_append_drop index workers, List.drop_eq_getElem_cons inside]
    exact List.perm_middle
  · rw [List.set_eq_take_append_cons_drop, if_pos inside]
    exact List.perm_middle

/-! ### Steps -/

/-- Whoever else has a property still has it when a worker is replaced that did not have it. -/
theorem exists_still {property : Worker → Prop} (without : ¬ property worker) (replacement : Worker)
    (found : ∃ other ∈ worker :: others, property other) :
    ∃ other ∈ replacement :: others, property other := by
  obtain ⟨other, member, holds⟩ := found
  obtain rfl | present := List.mem_cons.mp member
  · exact absurd holds without
  · exact ⟨other, List.mem_cons_of_mem _ present, holds⟩

/-- Others than the one that takes a step go on to fit. -/
theorem Orderly.fits_still (orderly : Orderly job names next claims log (worker :: others))
    {replacement : Worker} {later : Nat} {after : List Notice} (notices : List Notice)
    (extended : after = log ++ notices) (le : next ≤ later)
    (fits : Fits job names later after replacement) :
    ∀ other ∈ replacement :: others, Fits job names later after other := by
  subst extended
  intro other member
  obtain rfl | present := List.mem_cons.mp member
  · exact fits
  · exact (orderly.fits other (List.mem_cons_of_mem _ present)).mono notices le

/-- A step that only moves a worker on which has neither claimed a file nor a report to file. -/
theorem Orderly.move (orderly : Orderly job names next claims log (worker :: others))
    {replacement : Worker} {later : Nat} (le : next ≤ later)
    (fits : Fits job names later log replacement) (before : worker.claimed? = none)
    (after : replacement.claimed? = none)
    (noReport : ∀ name report, worker.phase ≠ .filing name report)
    (taken : ∀ name ∈ names.take later, claims.contains name = true ∨
      ∃ other ∈ replacement :: others, other.phase = .claiming name) :
    Orderly job names later claims log (replacement :: others) := by
  have same : handled log (replacement :: others) = handled log (worker :: others) := by
    rw [handled_of_unclaimed before, handled_of_unclaimed after]
  refine ⟨orderly.fits_still [] (List.append_nil log).symm le fits, same.symm ▸ orderly.once,
    same.symm ▸ orderly.claimed, taken, orderly.listed, orderly.errors, orderly.filed,
    fun name member => ?_⟩
  refine (orderly.kept name member).imp id (Or.imp id (Or.imp id (exists_still ?_ replacement)))
  rintro ⟨other, report, isFiling, -⟩
  exact noReport other report isFiling

/-- A worker takes the next name, or finds that there is none. -/
theorem Orderly.take (orderly : Orderly job names next claims log (worker :: others))
    (isIdle : worker.phase = .idle) :
    Orderly job names (next + 1) claims log ({ worker with
      phase :=
        match names[next]? with
        | some name => .claiming name
        | none => .done } :: others) := by
  have unused := (orderly.fits worker List.mem_cons_self).matcher (by simp [isIdle])
  have before : worker.claimed? = none := by rw [Worker.claimed?, isIdle]
  have taken (name : Path) (member : name ∈ names.take next) (phase : Phase) :=
    (orderly.taken name member).imp id
      (exists_still (by simp [isIdle]) { worker with phase := phase })
  cases found : names[next]? with
  | some name =>
    refine orderly.move (Nat.le_succ next) ⟨fun other isNow => ?_, by simp, by simp, by simp,
      fun _ => unused⟩ before rfl (by simp [isIdle]) fun other member => ?_
    · obtain isClaiming | isMatching := isNow
      · cases isClaiming
        exact List.mem_of_getElem? found
      · cases isMatching
    · rw [List.take_add_one, found] at member
      obtain old | new := List.mem_append.mp member
      · exact taken other old _
      · cases List.mem_singleton.mp new
        exact .inr ⟨_, List.mem_cons_self, rfl⟩
  | none =>
    refine orderly.move (Nat.le_succ next) ⟨by simp, by simp,
      fun _ => (List.getElem?_eq_none_iff.mp found).trans (Nat.le_succ _), by simp, fun _ => unused⟩
      before rfl (by simp [isIdle]) fun other member => ?_
    rw [List.take_add_one, found] at member
    obtain old | new := List.mem_append.mp member
    · exact taken other old _
    · cases new

/-- A worker finds that a file is claimed. -/
theorem Orderly.skip (orderly : Orderly job names next claims log (worker :: others))
    (isClaiming : worker.phase = .claiming name) (contains : claims.contains name = true) :
    Orderly job names next claims log ({ worker with phase := .idle } :: others) := by
  have unused := (orderly.fits worker List.mem_cons_self).matcher (by simp [isClaiming])
  refine orderly.move (Nat.le_refl next) ⟨by simp, by simp, by simp, by simp, fun _ => unused⟩
    (by rw [Worker.claimed?, isClaiming]) rfl (by simp [isClaiming]) fun other member => ?_
  by_cases same : name = other
  · exact .inl (same ▸ contains)
  · refine (orderly.taken other member).imp id (exists_still ?_ _)
    rw [isClaiming]
    exact fun equal => same (Phase.claiming.inj equal)

/-- A worker claims a file. -/
theorem Orderly.claim (orderly : Orderly job names next claims log (worker :: others))
    (isClaiming : worker.phase = .claiming name) {claimed : Claims}
    (claiming : claims.claim? name = some claimed) :
    Orderly job names next claimed log ({ worker with phase := .matching name } :: others) := by
  have unused := (orderly.fits worker List.mem_cons_self).matcher (by simp [isClaiming])
  have unclaimed := (Claims.contains_of_claim? claiming).1
  have before : worker.claimed? = none := by rw [Worker.claimed?, isClaiming]
  have more : (handled log ({ worker with phase := .matching name } :: others)).Perm
      (name :: handled log (worker :: others)) := by
    rw [handled_of_unclaimed before]
    exact handled_of_claimed rfl others
  refine ⟨orderly.fits_still [] (List.append_nil log).symm (Nat.le_refl next)
    ⟨fun other isNow => ?_, by simp, by simp, by simp, fun _ => unused⟩, ?_, fun other => ?_,
    fun other member => ?_, orderly.listed, orderly.errors, fun other report found => ?_,
    fun other member => ?_⟩
  · obtain isClaimingNow | isMatching := isNow
    · cases isClaimingNow
    · cases isMatching
      exact (orderly.fits worker List.mem_cons_self).listed name (.inl isClaiming)
  · refine (more.map _).nodup_iff.mpr (List.nodup_cons.mpr ⟨fun member => ?_, orderly.once⟩)
    rw [(orderly.claimed name).mpr member] at unclaimed
    cases unclaimed
  · rw [(more.map _).mem_iff, List.map_cons, List.mem_cons, ← orderly.claimed other]
    exact Claims.contains_claimed claiming other
  · by_cases same : other.components = name.components
    · exact .inl ((Claims.contains_claimed claiming other).mpr (.inl same))
    · refine (orderly.taken other member).imp
        (fun old => (Claims.contains_claimed claiming other).mpr (.inr old)) (exists_still ?_ _)
      rw [isClaiming]
      exact fun equal => same (congrArg Path.components (Phase.claiming.inj equal).symm)
  · exact orderly.filed other report (Claims.report?_claimed claiming other ▸ found)
  · rw [Claims.report?_claimed claiming other]
    exact (orderly.kept other member).imp id (Or.imp id (Or.imp id
      (exists_still (by simp [isClaiming]) _)))

/-- A worker has matched the file it has claimed, whatever that came to. -/
theorem Orderly.record (orderly : Orderly job names next claims log (worker :: others))
    (isMatching : worker.phase = .matching name) {replacement : Worker} {notices : List Notice}
    (alone : matchedIn notices = [])
    (errors : notices.countP Notice.isError = [name].countP job.fails)
    (fits : Fits job names next (log ++ .matching name :: notices) replacement)
    (unclaimed : replacement.claimed? = none)
    (kept : job.fails name = true ∨ job.BreaksDown name ∨
      ∃ report, replacement.phase = .filing name report) :
    Orderly job names next claims (log ++ .matching name :: notices) (replacement :: others) := by
  have before : worker.claimed? = some name := by rw [Worker.claimed?, isMatching]
  have matched : matchedIn (log ++ .matching name :: notices) = matchedIn log ++ [name] := by
    rw [matchedIn_record, alone]
  have same : (handled (log ++ .matching name :: notices) (replacement :: others)).Perm
      (handled log (worker :: others)) := by
    rw [handled_of_unclaimed unclaimed, handled, matched, List.append_assoc]
    exact List.perm_middle.trans (handled_of_claimed before others).symm
  refine ⟨orderly.fits_still _ rfl (Nat.le_refl next) fits, (same.map _).nodup_iff.mpr orderly.once,
    fun other => (orderly.claimed other).trans (same.map _).mem_iff.symm, fun other member => ?_,
    fun other member => ?_, ?_, fun other report found => ?_, fun other member => ?_⟩
  · exact (orderly.taken other member).imp id (exists_still (by simp [isMatching]) _)
  · rw [matched] at member
    obtain old | new := List.mem_append.mp member
    · exact orderly.listed other old
    · cases List.mem_singleton.mp new
      exact (orderly.fits worker List.mem_cons_self).listed name (.inr isMatching)
  · rw [matched, List.countP_append, List.countP_append, orderly.errors, ← errors]
    rfl
  · obtain ⟨spelled, member, isName, finds⟩ := orderly.filed other report found
    exact ⟨spelled, matched ▸ List.mem_append_left _ member, isName, finds⟩
  · rw [matched] at member
    obtain old | new := List.mem_append.mp member
    · exact (orderly.kept other old).imp id (Or.imp id (Or.imp id
        (exists_still (by simp [isMatching]) _)))
    · cases List.mem_singleton.mp new
      refine kept.imp id (Or.imp id fun ⟨report, isFiling⟩ => .inr ?_)
      exact ⟨replacement, List.mem_cons_self, name, report, isFiling, rfl⟩

/-- A worker matches the file it has claimed. -/
theorem Orderly.examine (orderly : Orderly job names next claims log (worker :: others))
    (isMatching : worker.phase = .matching name) :
    Orderly job names next claims (log ++ (worker.matchFile job name).2)
      ((worker.matchFile job name).1 :: others) := by
  have fits := orderly.fits worker List.mem_cons_self
  have unused := fits.matcher (by simp [isMatching])
  have listed := fits.listed name (.inr isMatching)
  have atHand : (worker.matcher.getD (.ofProgram job.program job.settings)).Unused job.program
      job.settings := by
    cases made : worker.matcher with
    | none => exact Matcher.unused_ofProgram _ _
    | some matcher => exact unused matcher made
  unfold Worker.matchFile
  cases readable : job.files name with
  | error fault =>
    have fails : job.fails name = true := by rw [Job.fails, readable]
    exact orderly.record isMatching rfl (by simp [Notice.isError, fails])
      ⟨by simp, by simp, by simp, by simp, fun _ => unused⟩ rfl (.inl fails)
  | ok text =>
    obtain ⟨agree, still⟩ := atHand.examine text
    dsimp only
    generalize (worker.matcher.getD (.ofProgram job.program job.settings)).examine text = examined
      at agree still
    obtain ⟨answer, matcher⟩ := examined
    change Report.Agree answer (job.reportAlone text) at agree
    generalize alone : job.reportAlone text = expected at agree
    cases agree with
    | @reported report found same =>
      have finds : job.Finds name report := ⟨text, found, readable, alone, same⟩
      have fails : job.fails name = false := by simp [Job.fails, readable, alone]
      refine orderly.record isMatching rfl (by simp [Notice.isError, fails])
        ⟨by simp, fun other filing isFiling => ?_, by simp, by simp, fun _ used made => ?_⟩ rfl
        (.inr (.inr ⟨report, rfl⟩))
      · cases isFiling
        refine ⟨?_, finds⟩
        rw [matchedIn_record]
        exact List.mem_append_right _ List.mem_cons_self
      · cases made
        exact still fun _ same => nomatch same
    | aborted abort =>
      cases abort with
      | failed failure =>
        have fails : job.fails name = true := by simp [Job.fails, readable, alone]
        refine orderly.record isMatching rfl (by simp [Notice.isError, fails])
          ⟨by simp, by simp, by simp, by simp, fun _ used made => ?_⟩ rfl (.inl fails)
        cases made
        exact still fun _ same => nomatch same
      | defect defect =>
        have fails : job.fails name = false := by simp [Job.fails, readable, alone]
        have breaks := Job.breaksDown_of_defect readable alone
        exact orderly.record isMatching rfl (by simp [fails])
          ⟨by simp, by simp, by simp, fun _ => ⟨name, listed, breaks⟩,
            fun found => absurd rfl found⟩ rfl (.inr (.inl breaks))

/-- A worker files a report. -/
theorem Orderly.file (orderly : Orderly job names next claims log (worker :: others))
    {report : Report} (isFiling : worker.phase = .filing name report) :
    Orderly job names next (claims.file name report) log
      ({ worker with phase := .idle } :: others) := by
  have fits := orderly.fits worker List.mem_cons_self
  have unused := fits.matcher (by simp [isFiling])
  obtain ⟨matched, finds⟩ := fits.filing name report isFiling
  have before : worker.claimed? = none := by rw [Worker.claimed?, isFiling]
  have same : handled log ({ worker with phase := .idle } :: others) =
      handled log (worker :: others) := by
    rw [handled_of_unclaimed before, handled_of_unclaimed rfl]
  have contains (other : Path) : (claims.file name report).contains other = true ↔
      claims.contains other = true := by
    refine (Claims.contains_cons (some report) other).trans (or_iff_right_of_imp fun isName => ?_)
    rw [orderly.claimed, isName]
    exact List.mem_map_of_mem (List.mem_append_left _ matched)
  refine ⟨orderly.fits_still [] (List.append_nil log).symm (Nat.le_refl next)
    ⟨by simp, by simp, by simp, by simp, fun _ => unused⟩, same.symm ▸ orderly.once,
    fun other => same.symm ▸ (contains other).trans (orderly.claimed other), fun other member => ?_,
    orderly.listed, orderly.errors, fun other filed found => ?_, fun other member => ?_⟩
  · exact (orderly.taken other member).imp (contains other).mpr
      (exists_still (by simp [isFiling]) _)
  · by_cases isName : other.components = name.components
    · rw [Claims.report?_congr isName, Claims.report?_file_self] at found
      cases found
      exact ⟨name, matched, isName.symm, finds⟩
    · rw [Claims.report?_file_other claims report isName] at found
      exact orderly.filed other filed found
  · by_cases isName : other.components = name.components
    · refine .inr (.inr (.inl ⟨report, ?_⟩))
      rw [Claims.report?_congr isName, Claims.report?_file_self]
    · rw [Claims.report?_file_other claims report isName]
      refine (orderly.kept other member).imp id (Or.imp id (Or.imp id (exists_still ?_ _)))
      rintro ⟨spelled, filed, isFilingNow, same⟩
      rw [isFiling] at isFilingNow
      cases isFilingNow
      exact isName same.symm

/-! ### Runs -/

/-- What is known of a round at any time. -/
abbrev IsOrderly (job : Job) (round : Round) : Prop :=
  Orderly job round.names round.next round.claims round.log round.workers

variable {round : Round}

/-- One step. -/
theorem IsOrderly.step (orderly : IsOrderly job round) (index : Nat) :
    IsOrderly job (round.step job index) := by
  unfold Round.step
  cases found : round.workers[index]? with
  | none => exact orderly
  | some worker =>
    obtain ⟨others, here, replaced⟩ := exists_others found
    have before := Orderly.perm orderly here
    dsimp only
    cases phase : worker.phase with
    | idle => exact (before.take phase).perm (replaced _).symm
    | claiming name =>
      dsimp only
      unfold Round.claim
      cases claiming : round.claims.claim? name with
      | none =>
        have contains : round.claims.contains name = true := by
          unfold Claims.claim? at claiming
          split at claiming
          · assumption
          · cases claiming
        exact (before.skip phase contains).perm (replaced _).symm
      | some claims => exact (before.claim phase claiming).perm (replaced _).symm
    | matching name => exact (before.examine phase).perm (replaced _).symm
    | filing name report => exact (before.file phase).perm (replaced _).symm
    | done => exact orderly
    | lost => exact orderly

/-- Any number of steps. -/
theorem IsOrderly.follow (orderly : IsOrderly job round) (schedule : List Nat) :
    IsOrderly job (round.follow job schedule) := by
  induction schedule generalizing round with
  | nil => exact orderly
  | cons index schedule inductionHypothesis => exact inductionHypothesis (orderly.step index)

section

variable (orderly : IsOrderly job round) (done : ∀ worker ∈ round.workers, worker.phase = .done)
include done

include orderly

end

end Round

namespace Round

variable {job : Job} {round : Round} (orderly : IsOrderly job round)
  (done : ∀ worker ∈ round.workers, worker.phase = .done) (someone : round.workers ≠ [])
  (consistent : job.files.Consistent)
include orderly done someone consistent

end Round

end Rewind
