import Arbiter.Failure
import Arbiter.Program
import Arbiter.Store.State

/-!
# Calls to a store

All that a program may ask of a store, with what each call is answered, and the answers that the
store itself gives. A call to another store may fail.
-/

namespace Arbiter

inductive StoreCall where
  | create (d : Draft)
  | discard (id : SubmissionId)
  | find (id : SubmissionId)
  | list (f : Filter)
  | findBest (user : UserId) (problem : ProblemId)
  | countByUser (user : UserId)
  | countSolved (user : UserId)
  | standing (user : UserId) (problem : ProblemId)
  | complete (id : SubmissionId) (v : Verdict)
  | findStale (cutoff : Instant) (limit : Int64)
  | findProblem (id : ProblemId)
  | countSubmit (id : ProblemId)
  | findUser (id : UserId)
  deriving Repr

namespace StoreCall

/-- What a call that does not fail is answered. -/
abbrev Result : StoreCall → Type
  | create _ => Submission
  | discard _ => Bool
  | find _ => Option Submission
  | list _ => List Submission × Int64
  | findBest _ _ => Option Submission
  | countByUser _ => Int64
  | countSolved _ => Int64
  | standing _ _ => Standing
  | complete _ _ => Option Submission
  | findStale _ _ => List SubmissionId
  | findProblem _ => Option Problem
  | countSubmit _ => Unit
  | findUser _ => Option User

end StoreCall

/-- The interface of stores. -/
abbrev StoreInterface : Interface := ⟨StoreCall, fun c => Except Failure c.Result⟩

namespace Store

/-- Answers a call at the time `now`. -/
def run (now : Instant) (s : Store) : (c : StoreCall) → Except Failure c.Result × Store
  | .create d => let (x, s) := s.create now d; (.ok x, s)
  | .discard id => let (b, s) := s.discard id; (.ok b, s)
  | .find id => (.ok (s.find? id), s)
  | .list f => (.ok (s.page f, Int64.ofNat (s.matching f).length), s)
  | .findBest user problem => (.ok (s.best? user problem), s)
  | .countByUser user => (.ok (Int64.ofNat (s.countByUser user)), s)
  | .countSolved user => (.ok (Int64.ofNat (s.solved user).length), s)
  | .standing user problem => (.ok (s.standing user problem), s)
  | .complete id v => let (x, s) := s.complete now id v; (.ok x, s)
  | .findStale cutoff limit => (.ok (s.stale cutoff limit.toInt.toNat), s)
  | .findProblem id => (.ok (s.problems.find? id), s)
  | .countSubmit id =>
    match s.countSubmit id with
    | some s => (.ok (), s)
    | none => (.error (.notFound ("Problem " ++ Numeral.text id.toInt ++ " not found")), s)
  | .findUser id => (.ok (s.users.find? id), s)

end Store

end Arbiter
