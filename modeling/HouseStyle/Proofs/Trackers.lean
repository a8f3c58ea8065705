import HouseStyle.Proofs.CodeLines
import HouseStyle.Proofs.IndentUnit
import Mathlib.Algebra.GroupWithZero.Nat

/-!
# Three trackers in one state

A scan follows comments, braces and the indent unit, and each of its operations belongs to one of
these trackers. The operations can be called in any order on one state: a call reads the part of its
own tracker only, and leaves the parts of the others as they are.

* `call_only`, `only_call_of_ne`: what one call does to the part of its own tracker, and of another.
* `only_after`: hence the part of a tracker is what its own calls make of it, and every closed form of
  a tracker by itself holds for calls in any order.
* `run64?_eq`: the brace level is a number of 64 bits in a machine. It does not overflow as long as the
  braces of either kind can be counted in 63 bits.
-/

namespace HouseStyle.Scan

/-! ## Calls -/

inductive Tracker where
  | comments
  | braces
  | indent
  deriving DecidableEq

inductive Call where
  | classify (line : Line)
  | trackBraces (line : Line)
  | observeIndent (width : Nat)
  deriving DecidableEq

inductive Answer where
  | kind (kind : LineKind)
  | level (level : Int)
  | unit (unit : Option Nat)
  deriving DecidableEq

namespace Call

def tracker : Call → Tracker
  | classify _ => .comments
  | trackBraces _ => .braces
  | observeIndent _ => .indent

def classified? : Call → Option Line
  | classify line => some line
  | _ => none

def tracked? : Call → Option Line
  | trackBraces line => some line
  | _ => none

def observed? : Call → Option Nat
  | observeIndent width => some width
  | _ => none

end Call

def classifiedIn (calls : List Call) : List Line :=
  calls.filterMap Call.classified?

def trackedIn (calls : List Call) : List Line :=
  calls.filterMap Call.tracked?

def observedIn (calls : List Call) : List Nat :=
  calls.filterMap Call.observed?

def call (scan : Scan) : Call → Answer × Scan
  | .classify line => (.kind (scan.classify line).1, (scan.classify line).2)
  | .trackBraces line => (.level (scan.trackBraces line).1, (scan.trackBraces line).2)
  | .observeIndent width => (.unit (scan.observeIndent width).1, (scan.observeIndent width).2)

def after (scan : Scan) (calls : List Call) : Scan :=
  calls.foldl (fun scan call => (scan.call call).2) scan

def answers (scan : Scan) : List Call → List Answer
  | [] => []
  | call :: rest => (scan.call call).1 :: answers (scan.call call).2 rest

theorem after_cons (scan : Scan) (call : Call) (rest : List Call) :
    scan.after (call :: rest) = (scan.call call).2.after rest := rfl

theorem getElem?_answers (scan : Scan) (calls : List Call) (index : Nat) :
    (scan.answers calls)[index]? =
      calls[index]?.map fun call => ((scan.after (calls.take index)).call call).1 := by
  induction calls generalizing scan index with
  | nil => rfl
  | cons call rest ih =>
      cases index with
      | zero => rfl
      | succ index =>
          rw [answers, List.getElem?_cons_succ, List.getElem?_cons_succ, ih]
          rfl

theorem getLast?_answers_concat (scan : Scan) (calls : List Call) (call : Call) :
    (scan.answers (calls ++ [call])).getLast? = some ((scan.after calls).call call).1 := by
  induction calls generalizing scan with
  | nil => rfl
  | cons first rest ih =>
      rw [List.cons_append, answers, List.getLast?_cons, ih]
      rfl

/-! ## The part of one tracker -/

def only (scan : Scan) : Tracker → Scan
  | .comments => { inComment := scan.inComment }
  | .braces => { braceLevel := scan.braceLevel }
  | .indent => { indentUnit := scan.indentUnit }

theorem only_fresh (tracker : Tracker) : only {} tracker = {} := by
  cases tracker <;> rfl

/-- A call returns the same if only the part of its own tracker is there, and changes it in the same
way. -/
theorem call_only (scan : Scan) (call : Call) : (scan.only call.tracker).call call =
    ((scan.call call).1, (scan.call call).2.only call.tracker) := by
  cases call with
  | classify line =>
      cases closes : Line.closesComment line <;>
        simp [Scan.call, Call.tracker, only, classify, closes]
  | trackBraces line => rfl
  | observeIndent width => rfl

theorem only_call_of_ne {call : Call} {tracker : Tracker} (other : call.tracker ≠ tracker)
    (scan : Scan) : (scan.call call).2.only tracker = scan.only tracker := by
  cases call with
  | classify line =>
      cases tracker with
      | comments => exact absurd rfl other
      | braces => rw [Scan.call, classify_frame]; rfl
      | indent => rw [Scan.call, classify_frame]; rfl
  | trackBraces line =>
      cases tracker with
      | braces => exact absurd rfl other
      | comments => rfl
      | indent => rfl
  | observeIndent width =>
      cases tracker with
      | indent => exact absurd rfl other
      | comments => rfl
      | braces => rfl

theorem only_after (scan : Scan) (calls : List Call) (tracker : Tracker) :
    (scan.after calls).only tracker =
      (scan.only tracker).after (calls.filter (·.tracker = tracker)) := by
  induction calls generalizing scan with
  | nil => rfl
  | cons call rest ih =>
      rw [after_cons, ih]
      by_cases own : call.tracker = tracker
      · subst own
        rw [List.filter_cons_of_pos (by simp), after_cons, call_only]
      · rw [List.filter_cons_of_neg (by simpa using own), only_call_of_ne own]

theorem call_after_own (calls : List Call) (call : Call) :
    ((after {} calls).call call).1 =
      ((after {} (calls.filter (·.tracker = call.tracker))).call call).1 := by
  have part := only_after {} calls call.tracker
  rw [only_fresh] at part
  rw [← part, call_only]

/-! ## Each tracker by itself -/

theorem filter_tracker {α : Type} {tracker : Tracker} {read : Call → Option α} {make : α → Call}
    (reads : ∀ call, (read call).map make = if call.tracker = tracker then some call else none)
    (calls : List Call) :
    calls.filter (·.tracker = tracker) = (calls.filterMap read).map make := by
  rw [List.map_filterMap, ← List.filterMap_eq_filter]
  refine List.filterMap_congr fun call _ => ?_
  rw [reads, Option.guard]
  simp only [decide_eq_true_eq]

theorem after_classify (lines : List Line) :
    after {} (lines.map Call.classify) = Scan.afterLines {} lines := by
  rw [after, List.foldl_map]
  rfl

theorem braceLevel_after_trackBraces (scan : Scan) (lines : List Line) :
    (scan.after (lines.map Call.trackBraces)).braceLevel =
      scan.braceLevel + (lines.flatten.count '\x7b' - lines.flatten.count '\x7d') := by
  induction lines generalizing scan with
  | nil => simp [after]
  | cons line rest ih =>
      have level : (scan.call (.trackBraces line)).2.braceLevel =
          scan.braceLevel + Line.braceDelta line := rfl
      rw [List.map_cons, after_cons, ih, level, Line.braceDelta, List.flatten_cons, List.count_append,
        List.count_append]
      omega

theorem indentUnit_after_observeIndent (scan : Scan) (widths : List Nat) :
    (scan.after (widths.map Call.observeIndent)).indentUnit =
      scan.indentUnit.or (widths.find? (· ≠ 0)) := by
  induction widths generalizing scan with
  | nil => simp [after]
  | cons width rest ih =>
      have unit : (scan.call (.observeIndent width)).2.indentUnit =
          (scan.observeIndent width).1 := rfl
      rw [List.map_cons, after_cons, ih, unit, observeIndent_fst, Option.or_assoc]
      by_cases zero : width = 0 <;> simp [zero]

/-! ## Closed forms -/

theorem only_after_fresh {α : Type} {tracker : Tracker} {read : Call → Option α} {make : α → Call}
    (reads : ∀ call, (read call).map make = if call.tracker = tracker then some call else none)
    (calls : List Call) :
    (after {} calls).only tracker = after {} ((calls.filterMap read).map make) := by
  rw [only_after, only_fresh, filter_tracker reads]

theorem inComment_after (calls : List Call) : (after {} calls).inComment =
    (Scan.afterLines {} (classifiedIn calls)).inComment := by
  have part : (after {} calls).only .comments =
      after {} ((classifiedIn calls).map Call.classify) :=
    only_after_fresh (by rintro (_ | _ | _) <;> rfl) calls
  have flag := congrArg inComment part
  rw [after_classify] at flag
  exact flag

theorem braceLevel_after (calls : List Call) : (after {} calls).braceLevel =
    (trackedIn calls).flatten.count '\x7b' - (trackedIn calls).flatten.count '\x7d' := by
  have part : (after {} calls).only .braces =
      after {} ((trackedIn calls).map Call.trackBraces) :=
    only_after_fresh (by rintro (_ | _ | _) <;> rfl) calls
  have level := congrArg braceLevel part
  rw [braceLevel_after_trackBraces, Int.zero_add] at level
  exact level

theorem indentUnit_after (calls : List Call) : (after {} calls).indentUnit =
    (observedIn calls).find? (· ≠ 0) := by
  have part : (after {} calls).only .indent =
      after {} ((observedIn calls).map Call.observeIndent) :=
    only_after_fresh (by rintro (_ | _ | _) <;> rfl) calls
  have unit := congrArg indentUnit part
  rw [indentUnit_after_observeIndent, Option.none_or] at unit
  exact unit

theorem answer_own {calls : List Call} {index : Nat} {call : Call}
    (located : calls[index]? = some call) : ∃ answer,
      (answers {} calls)[index]? = some answer ∧
      (answers {} ((calls.take (index + 1)).filter (·.tracker = call.tracker))).getLast? =
        some answer := by
  refine ⟨((after {} (calls.take index)).call call).1, ?_, ?_⟩
  · rw [getElem?_answers, located, Option.map_some]
  · have own : [call].filter (·.tracker = call.tracker) = [call] := by simp
    rw [List.take_add_one, located, Option.toList_some, List.filter_append, own,
      getLast?_answers_concat, ← call_after_own]

/-! ## Numbers of 64 bits -/

def sum64? (first second : Int) : Option Int :=
  if Int64.minValue.toInt ≤ first + second ∧ first + second ≤ Int64.maxValue.toInt then
    some (first + second)
  else none

def depth64? (depth : Int) (c : Char) : Option Int :=
  if c = '\x7b' then sum64? depth 1 else if c = '\x7d' then sum64? depth (-1) else some depth

def call64? (scan : Scan) : Call → Option (Answer × Scan)
  | .trackBraces line =>
    (line.foldlM depth64? 0).bind fun delta => (sum64? scan.braceLevel delta).map fun level =>
      (.level level, { scan with braceLevel := level })
  | other => some (scan.call other)

def run64? (scan : Scan) : List Call → Option (List Answer × Scan)
  | [] => some ([], scan)
  | call :: rest =>
    (scan.call64? call).bind fun step => (run64? step.2 rest).map fun later =>
      (step.1 :: later.1, later.2)

def balance (opened closed : Nat) : Int :=
  opened - closed

theorem balance_add (opened closed opens closes : Nat) :
    balance opened closed + balance opens closes = balance (opened + opens) (closed + closes) := by
  simp only [balance]
  omega

theorem sum64?_balance {opened closed opens closes : Nat} (fewOpening : opened + opens < 2 ^ 63)
    (fewClosing : closed + closes < 2 ^ 63) :
    sum64? (balance opened closed) (balance opens closes) =
      some (balance (opened + opens) (closed + closes)) := by
  have least : Int64.minValue.toInt = -9223372036854775808 := by decide
  have greatest : Int64.maxValue.toInt = 9223372036854775807 := by decide
  rw [sum64?, balance_add, if_pos]
  rw [least, greatest, balance]
  omega

theorem depth64?_balance {opened closed : Nat} {c : Char}
    (fewOpening : opened + [c].count '\x7b' < 2 ^ 63)
    (fewClosing : closed + [c].count '\x7d' < 2 ^ 63) :
    depth64? (balance opened closed) c =
      some (balance (opened + [c].count '\x7b') (closed + [c].count '\x7d')) := by
  by_cases isOpening : c = '\x7b'
  · subst isOpening
    rw [depth64?, if_pos rfl]
    exact sum64?_balance fewOpening fewClosing
  · by_cases isClosing : c = '\x7d'
    · subst isClosing
      rw [depth64?, if_neg isOpening, if_pos rfl]
      exact sum64?_balance fewOpening fewClosing
    · simp [depth64?, isOpening, isClosing]

theorem foldlM_depth64? {opened closed : Nat} {line : Line}
    (fewOpening : opened + line.count '\x7b' < 2 ^ 63)
    (fewClosing : closed + line.count '\x7d' < 2 ^ 63) :
    line.foldlM depth64? (balance opened closed) =
      some (balance (opened + line.count '\x7b') (closed + line.count '\x7d')) := by
  induction line generalizing opened closed with
  | nil => rfl
  | cons c rest ih =>
      have parts (sign : Char) : (c :: rest).count sign = [c].count sign + rest.count sign := by
        rw [← List.count_append, List.singleton_append]
      rw [parts, ← Nat.add_assoc] at fewOpening fewClosing
      rw [parts, parts, ← Nat.add_assoc, ← Nat.add_assoc, List.foldlM_cons,
        depth64?_balance (by omega) (by omega)]
      exact ih fewOpening fewClosing

theorem call64?_trackBraces {scan : Scan} {opened closed : Nat} {line : Line}
    (level : scan.braceLevel = balance opened closed)
    (fewOpening : opened + line.count '\x7b' < 2 ^ 63)
    (fewClosing : closed + line.count '\x7d' < 2 ^ 63) :
    scan.call64? (.trackBraces line) = some (scan.call (.trackBraces line)) ∧
    (scan.call (.trackBraces line)).2.braceLevel =
      balance (opened + line.count '\x7b') (closed + line.count '\x7d') := by
  have total : scan.braceLevel + Line.braceDelta line =
      balance (opened + line.count '\x7b') (closed + line.count '\x7d') := by
    rw [level]
    exact balance_add _ _ _ _
  have delta : line.foldlM depth64? (balance 0 0) =
      some (balance (0 + line.count '\x7b') (0 + line.count '\x7d')) :=
    foldlM_depth64? (by omega) (by omega)
  rw [Nat.zero_add, Nat.zero_add] at delta
  refine ⟨?_, total⟩
  change (line.foldlM depth64? (balance 0 0)).bind _ = _
  rw [delta, Option.bind_some, level, sum64?_balance fewOpening fewClosing, Option.map_some, ← total]
  rfl

theorem run64?_cons {scan : Scan} {call : Call} {rest : List Call}
    (here : scan.call64? call = some (scan.call call))
    (later : (scan.call call).2.run64? rest =
      some ((scan.call call).2.answers rest, (scan.call call).2.after rest)) :
    scan.run64? (call :: rest) = some (scan.answers (call :: rest), scan.after (call :: rest)) := by
  rw [run64?, here, Option.bind_some, later]
  rfl

theorem run64?_eq {scan : Scan} {opened closed : Nat} (level : scan.braceLevel = balance opened closed)
    {calls : List Call}
    (fewOpening : opened + (trackedIn calls).flatten.count '\x7b' < 2 ^ 63)
    (fewClosing : closed + (trackedIn calls).flatten.count '\x7d' < 2 ^ 63) :
    scan.run64? calls = some (scan.answers calls, scan.after calls) := by
  -- The level is the balance of the braces so far, and with those still to come the counts stay small.
  induction calls generalizing scan opened closed with
  | nil => rfl
  | cons call rest ih =>
      cases call with
      | trackBraces line =>
          have parts (sign : Char) : (trackedIn (.trackBraces line :: rest)).flatten.count sign =
              line.count sign + (trackedIn rest).flatten.count sign :=
            List.count_append
          rw [parts, ← Nat.add_assoc] at fewOpening fewClosing
          obtain ⟨here, next⟩ := call64?_trackBraces level (Nat.lt_of_add_right_lt fewOpening)
            (Nat.lt_of_add_right_lt fewClosing)
          exact run64?_cons here (ih next fewOpening fewClosing)
      | classify line =>
          have next : (scan.classify line).2.braceLevel = scan.braceLevel := by
            rw [classify_frame]
          exact run64?_cons rfl (ih (next.trans level) fewOpening fewClosing)
      | observeIndent width => exact run64?_cons rfl (ih level fewOpening fewClosing)

/-! ## The trackers together -/

open CommentTracking in
/-- Calls of the three operations can be mixed in any order. A comment is open at the end exactly if one
of the classified lines opens it and none of them from there on closes it. The level is the number of
opening braces less that of closing ones in all tracked lines, and on the way to it no sum overflows 64
bits as long as both numbers fit in 63. The unit is the first width that is not zero. And every call
returns what it returns if only the calls of its own kind are made up to it. -/
theorem trackers_independent (calls : List Call) :
    ((after {} calls).inComment = true ↔ ∃ start < (classifiedIn calls).length,
      StaysOpen (classifiedIn calls) start (classifiedIn calls).length) ∧
    ((after {} calls).braceLevel =
      (trackedIn calls).flatten.count '\x7b' - (trackedIn calls).flatten.count '\x7d') ∧
    ((trackedIn calls).flatten.count '\x7b' < 2 ^ 63 →
      (trackedIn calls).flatten.count '\x7d' < 2 ^ 63 →
        run64? {} calls = some (answers {} calls, after {} calls)) ∧
    (after {} calls).indentUnit = (observedIn calls).find? (· ≠ 0) ∧
    ∀ index call, calls[index]? = some call → ∃ answer,
      (answers {} calls)[index]? = some answer ∧
      (answers {} ((calls.take (index + 1)).filter (·.tracker = call.tracker))).getLast? =
        some answer := by
  refine ⟨?_, braceLevel_after calls, fun fewOpening fewClosing => ?_, indentUnit_after calls,
    fun index call => answer_own⟩
  · rw [inComment_after, ← inComment_afterLines_take (Nat.le_refl _), List.take_length]
  · have fresh : ({} : Scan).braceLevel = balance 0 0 := rfl
    exact run64?_eq fresh (by rwa [Nat.zero_add]) (by rwa [Nat.zero_add])

theorem trackers_independent_mixed :
    let calls : List Call := [.trackBraces "\x7b \x7b".toList, .observeIndent 0,
      .classify "/* a */".toList, .observeIndent 3, .trackBraces "\x7d /*".toList,
      .classify "x /* b".toList, .observeIndent 2, .classify "\x7b".toList]
    (trackedIn calls).flatten.count '\x7b' < 2 ^ 63 ∧
    (trackedIn calls).flatten.count '\x7d' < 2 ^ 63 ∧
    run64? {} calls = some (answers {} calls, after {} calls) ∧
    calls[7]? = some (.classify "\x7b".toList) ∧
    (answers {} calls)[7]? = some (.kind .comment) ∧
    after {} calls = ⟨true, 1, some 3⟩ := by
  intro calls
  have fewOpening : (trackedIn calls).flatten.count '\x7b' < 2 ^ 63 := by decide
  have fewClosing : (trackedIn calls).flatten.count '\x7d' < 2 ^ 63 := by decide
  exact ⟨fewOpening, fewClosing, (trackers_independent calls).2.2.1 fewOpening fewClosing, by decide,
    by decide, by decide⟩

end HouseStyle.Scan
