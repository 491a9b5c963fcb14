import MefsSdk.BucketCache
import Mathlib

/-! # The cache under its lock

`Get`, `Set` and `Delete` (lines 44-64 of `bucket-cache.go`) each take the cache's
`RWMutex` around one access to the `items` map: `Get` the read lock, `Set` and
`Delete` the write lock, released by a deferred call. The map is a Go map: a write
marks the map as being written while it lasts, and an access that finds the mark
stops the program (`concurrent map read and map write`, `concurrent map writes`).

Callers here move one step at a time: take the lock, access the map (a write in two
steps, mark and commit), release the lock. Any caller may move next. The `RWMutex`
is modelled by what it guarantees, a reader count and a writer flag, and waits
where `sync` says it does; the writer preference of `sync.RWMutex` only makes more
callers wait, so every run of the real mutex is a run here.

`Sys.Inv` says that the counts are those of the callers holding the lock, that a
writer holds it alone, and that the mark is set exactly while a write is halfway.
Every step keeps it (`Sys.Inv.step`), so in every interleaving a writer holds the
lock alone and the program never stops (`lock_excludes`), some caller can move
while one has not returned (`lock_progress`), and the calls can all complete within
four steps each (`lock_completes`). A `Get` takes the read lock beside other
readers whenever no writer holds it (`Sys.Inv.get_shares`). The answers and the map
after any interleaving are those of the calls run one atomic step at a time in the
order they reach the map, and each caller returns the answer its own access got
(`lock_linearizes`, from the history invariant `Sys.Logged`): the atomic `Get`,
`Set` and `Delete` that the other modules call. -/

namespace MefsSdk.CacheLock
open MefsSdk.BucketCache

/-- A call on the cache. -/
inductive Op where
  | get (bucketName : String)
  | set (bucketName location : String)
  | delete (bucketName : String)
  deriving DecidableEq, Repr

/-- `Get` takes the read lock; `Set` and `Delete` take the write lock. -/
def Op.reads : Op → Bool
  | .get _ => true
  | _ => false

/-- The call as one atomic step on the map: `Get`'s answer, and the map after it. -/
def Op.run (items : BucketLocationCache) : Op → Option String × BucketLocationCache
  | .get b => (items.get b, items)
  | .set b l => (none, items.set b l)
  | .delete b => (none, items.delete b)

/-- Where a caller is in its method: before its lock, holding it before the map
access, halfway through a map write, holding it after the access with its answer,
or returned. -/
inductive Phase where
  | calling (op : Op)
  | locked (op : Op)
  | writing (op : Op)
  | accessed (op : Op) (answer : Option String)
  | returned (answer : Option String)
  deriving DecidableEq, Repr

/-- The caller holds the read lock. -/
def Phase.readHeld : Phase → Bool
  | .locked op | .accessed op _ => op.reads
  | _ => false

/-- The caller holds the write lock. -/
def Phase.writeHeld : Phase → Bool
  | .locked op | .accessed op _ => !op.reads
  | .writing _ => true
  | _ => false

/-- The caller is halfway through a map write. -/
def Phase.midWrite : Phase → Bool
  | .writing _ => true
  | _ => false

/-- The cache: its map, the map's write mark, and its `RWMutex`. -/
structure Cache where
  items : BucketLocationCache
  hashWriting : Bool
  readers : Nat
  writer : Bool

/-- The cache, where each caller is, and whether the runtime has stopped the program
on a concurrent map access. -/
structure Sys where
  cache : Cache
  callers : List Phase
  fatal : Bool

/-- Callers making the calls `ops` on a cache whose map is `items`, none of them
started. -/
def Sys.init (items : BucketLocationCache) (ops : List Op) : Sys :=
  ⟨⟨items, false, 0, false⟩, ops.map .calling, false⟩

/-- Caller `t`, at `p`, takes its next step. A caller that must wait for the lock
stays where it is. -/
def Sys.move (s : Sys) (t : Nat) : Phase → Sys
  | .calling op =>
    if op.reads then
      if s.cache.writer then s
      else ⟨{ s.cache with readers := s.cache.readers + 1 }, s.callers.set t (.locked op), s.fatal⟩
    else if s.cache.writer ∨ s.cache.readers ≠ 0 then s
    else ⟨{ s.cache with writer := true }, s.callers.set t (.locked op), s.fatal⟩
  | .locked op =>
    if s.cache.hashWriting then { s with fatal := true }
    else if op.reads then
      { s with callers := s.callers.set t (.accessed op (op.run s.cache.items).1) }
    else ⟨{ s.cache with hashWriting := true }, s.callers.set t (.writing op), s.fatal⟩
  | .writing op =>
    ⟨{ s.cache with items := (op.run s.cache.items).2, hashWriting := false },
      s.callers.set t (.accessed op (op.run s.cache.items).1), s.fatal⟩
  | .accessed op answer =>
    if op.reads then
      ⟨{ s.cache with readers := s.cache.readers - 1 }, s.callers.set t (.returned answer), s.fatal⟩
    else ⟨{ s.cache with writer := false }, s.callers.set t (.returned answer), s.fatal⟩
  | .returned _ => s

/-- One step of caller `t`; a caller that does not exist does nothing. -/
def Sys.step (s : Sys) (t : Nat) : Sys :=
  match s.callers[t]? with
  | some p => s.move t p
  | none => s

/-- The interleaving `sched`, one caller's step after another. -/
def Sys.exec (s : Sys) (sched : List Nat) : Sys := sched.foldl Sys.step s

/-- The call that caller `t`'s next step makes take effect on the map: a read, or
the commit of a write. -/
def Sys.accessOf (s : Sys) (t : Nat) : Option Op :=
  match s.callers[t]? with
  | some (.locked op) => if op.reads ∧ s.cache.hashWriting = false then some op else none
  | some (.writing op) => some op
  | _ => none

/-- A call taking effect on the map: its caller, the call, and the answer it gets. -/
structure Access where
  caller : Nat
  op : Op
  answer : Option String
  deriving DecidableEq, Repr

/-- The access caller `t`'s next step makes, if it makes one. -/
def Sys.stepAccess (s : Sys) (t : Nat) : List Access :=
  (s.accessOf t).toList.map fun op => ⟨t, op, (op.run s.cache.items).1⟩

/-- The calls of an interleaving in the order they take effect on the map, each with
its caller and the answer it gets there. -/
def Sys.trace (s : Sys) : List Nat → List Access
  | [] => []
  | t :: sched => s.stepAccess t ++ (s.step t).trace sched

/-- The accesses of caller `t` in the history `H`. -/
def accessesOf (H : List Access) (t : Nat) : List Access := H.filter (·.caller == t)

/-- The calls `ops` run one atomic step at a time from `items`: the answers, and the
map after them. -/
def runAtomic (items : BucketLocationCache) : List Op → List (Option String) × BucketLocationCache
  | [] => ([], items)
  | op :: ops =>
    let r := runAtomic (op.run items).2 ops
    ((op.run items).1 :: r.1, r.2)

/-- The invariant of the lock: the reader count is the number of callers holding the
read lock, the writer flag the number holding the write lock, and the mark the number
halfway through a write; a writer holds the lock alone, only `Set` and `Delete`
write, and the program has not stopped. -/
structure Sys.Inv (s : Sys) : Prop where
  readers : s.cache.readers = s.callers.countP Phase.readHeld
  writer : s.cache.writer.toNat = s.callers.countP Phase.writeHeld
  alone : s.cache.writer = true → s.cache.readers = 0
  mark : s.cache.hashWriting.toNat = s.callers.countP Phase.midWrite
  writes : ∀ op, Phase.writing op ∈ s.callers → op.reads = false
  notFatal : s.fatal = false

theorem init_inv (items : BucketLocationCache) (ops : List Op) : (Sys.init items ops).Inv where
  readers := by simp [Sys.init, List.countP_map, Function.comp_def, Phase.readHeld]
  writer := by simp [Sys.init, List.countP_map, Function.comp_def, Phase.writeHeld]
  alone := nofun
  mark := by simp [Sys.init, List.countP_map, Function.comp_def, Phase.midWrite]
  writes := by simp [Sys.init]
  notFatal := rfl

/-- A write halfway holds the write lock. -/
theorem Phase.writeHeld_of_midWrite {p : Phase} (h : p.midWrite = true) : p.writeHeld = true := by
  cases p <;> simp_all [Phase.midWrite, Phase.writeHeld]

/-- A caller that holds what `f` counts is counted. -/
theorem pos_of_get {l : List Phase} {t : Nat} {p : Phase} (h : l[t]? = some p) {f : Phase → Bool}
    (hf : f p = true) : 0 < l.countP f :=
  List.countP_pos_iff.mpr ⟨p, List.getElem?_mem h, hf⟩

/-- How a count over the callers changes when caller `t`, at `p`, moves to `q`. -/
theorem countP_set_of_get {l : List Phase} {t : Nat} {p : Phase} (h : l[t]? = some p)
    (f : Phase → Bool) (q : Phase) :
    (l.set t q).countP f + (f p).toNat = l.countP f + (f q).toNat := by
  have hpos := pos_of_get h (f := f)
  obtain ⟨ht, rfl⟩ := List.getElem?_eq_some_iff.mp h
  rw [List.countP_set f l t q ht]
  cases hp : f l[t] <;> cases f q <;> simp only [hp, Bool.toNat_true, Bool.toNat_false, if_true,
    if_false, Bool.false_eq_true, true_implies] at hpos ⊢ <;> omega

section
variable {s : Sys} {t : Nat} {p : Phase}

/-- The invariant after caller `t`, at `p`, moves to `q` while the cache becomes `c`:
each count of the cache changes by what the caller leaves and what it takes. -/
theorem Sys.Inv.of_move (hi : s.Inv) (h : s.callers[t]? = some p) {q : Phase} {c : Cache}
    (hr : c.readers + p.readHeld.toNat = s.cache.readers + q.readHeld.toNat)
    (hw : c.writer.toNat + p.writeHeld.toNat = s.cache.writer.toNat + q.writeHeld.toNat)
    (hm : c.hashWriting.toNat + p.midWrite.toNat = s.cache.hashWriting.toNat + q.midWrite.toNat)
    (ha : c.writer = true → c.readers = 0) (hq : ∀ op, q = .writing op → op.reads = false) :
    Sys.Inv ⟨c, s.callers.set t q, s.fatal⟩ := by
  have er := countP_set_of_get h Phase.readHeld q
  have ew := countP_set_of_get h Phase.writeHeld q
  have em := countP_set_of_get h Phase.midWrite q
  have := hi.readers
  have := hi.writer
  have := hi.mark
  exact ⟨by dsimp only; omega, by dsimp only; omega, ha, by dsimp only; omega,
    fun op hmem => (List.mem_or_eq_of_mem_set hmem).elim (hi.writes op) fun he => hq op he.symm,
    hi.notFatal⟩

theorem Sys.Inv.oneWriter (hi : s.Inv) : s.callers.countP Phase.writeHeld ≤ 1 :=
  hi.writer ▸ Bool.toNat_le _

/-- Writes halfway are counted among the holders of the write lock. -/
theorem midWrite_le_writeHeld (l : List Phase) : l.countP Phase.midWrite ≤ l.countP Phase.writeHeld :=
  List.countP_mono_left fun _ _ hx => Phase.writeHeld_of_midWrite hx

theorem Sys.Inv.writer_iff (hi : s.Inv) :
    s.cache.writer = true ↔ 0 < s.callers.countP Phase.writeHeld := by
  rw [← hi.writer]
  cases s.cache.writer <;> decide

/-- A caller holding the read lock finds no writer: a writer holds the lock alone. -/
theorem Sys.Inv.no_writer_of_read (hi : s.Inv) (h : s.callers[t]? = some p)
    (hr : p.readHeld = true) : s.cache.writer = false := by
  cases hw : s.cache.writer
  · rfl
  · have := hi.alone hw
    have := pos_of_get h hr
    have := hi.readers
    omega

/-- A caller holding a lock before its map access finds no write halfway: a write
halfway holds the write lock, which no one holds beside a reader, and which a writer
holds alone. -/
theorem Sys.Inv.no_mark_of_locked (hi : s.Inv) (h : s.callers[t]? = some (.locked op)) :
    s.cache.hashWriting = false := by
  have hm := hi.mark
  have := midWrite_le_writeHeld s.callers
  cases hb : s.cache.hashWriting
  · rfl
  · rw [hb, Bool.toNat_true] at hm
    cases hrd : op.reads
    -- a writer: the write halfway would be a second holder of the write lock
    · have em := countP_set_of_get h Phase.midWrite (.writing op)
      have ew := countP_set_of_get h Phase.writeHeld (.writing op)
      simp only [Phase.writeHeld, Phase.midWrite, hrd, Bool.not_false, Bool.toNat_true,
        Bool.toNat_false] at em ew
      have := midWrite_le_writeHeld (s.callers.set t (.writing op))
      have := hi.oneWriter
      omega
    -- a reader: the write halfway would hold the write lock beside it
    · have hw := hi.no_writer_of_read h (by simp [Phase.readHeld, hrd])
      have := hi.writer
      rw [hw, Bool.toNat_false] at this
      omega

/-- Every step keeps the invariant of the lock. -/
theorem Sys.Inv.step (hi : s.Inv) (t : Nat) : (s.step t).Inv := by
  unfold Sys.step
  cases h : s.callers[t]? with
  | none => exact hi
  | some p =>
    cases p with
    | calling op =>
      cases hrd : op.reads
      -- `Lock`: waits for every reader and the writer
      · by_cases hb : s.cache.writer = true ∨ s.cache.readers ≠ 0
        · simpa only [Sys.move, hrd, if_pos hb] using hi
        · simp only [Sys.move, hrd, if_neg hb, Bool.false_eq_true, if_false]
          simp only [not_or, Bool.not_eq_true, ne_eq, not_not] at hb
          exact hi.of_move h (by simp [Phase.readHeld, hrd]) (by simp [Phase.writeHeld, hrd, hb.1])
            (by simp [Phase.midWrite]) (fun _ => hb.2) nofun
      -- `RLock`: waits for the writer
      · cases hwt : s.cache.writer
        · simp only [Sys.move, hrd, hwt, Bool.false_eq_true, if_true, if_false]
          exact hi.of_move h (by simp [Phase.readHeld, hrd]) (by simp [Phase.writeHeld, hrd, hwt])
            (by simp [Phase.midWrite]) nofun nofun
        · simpa only [Sys.move, hrd, hwt, if_true] using hi
    | locked op =>
      have hnm := hi.no_mark_of_locked h
      cases hrd : op.reads
      -- the mark of a write
      · simp only [Sys.move, hnm, hrd, Bool.false_eq_true, if_false]
        exact hi.of_move h (by simp [Phase.readHeld, hrd]) (by simp [Phase.writeHeld, hrd])
          (by simp [Phase.midWrite, hnm]) hi.alone fun _ he => by cases he; exact hrd
      -- the read
      · simp only [Sys.move, hnm, hrd, Bool.false_eq_true, if_true, if_false]
        exact hi.of_move h (by simp [Phase.readHeld, hrd]) (by simp [Phase.writeHeld, hrd])
          (by simp [Phase.midWrite]) hi.alone nofun
    -- the commit of a write
    | writing op =>
      have hrd : op.reads = false := hi.writes op (List.getElem?_mem h)
      have hmark : s.cache.hashWriting = true := by
        have hm := hi.mark
        have := pos_of_get h (f := Phase.midWrite) rfl
        cases hb : s.cache.hashWriting
        · rw [hb, Bool.toNat_false] at hm; omega
        · rfl
      exact hi.of_move h (by simp [Phase.readHeld, hrd]) (by simp [Phase.writeHeld, hrd])
        (by simp [Phase.midWrite, hmark]) hi.alone nofun
    | accessed op answer =>
      cases hrd : op.reads
      -- `Unlock`
      · have hwt : s.cache.writer = true :=
          hi.writer_iff.mpr (pos_of_get h (f := Phase.writeHeld) (by simp [Phase.writeHeld, hrd]))
        simp only [Sys.move, hrd, Bool.false_eq_true, if_false]
        exact hi.of_move h (by simp [Phase.readHeld, hrd]) (by simp [Phase.writeHeld, hrd, hwt])
          (by simp [Phase.midWrite]) nofun nofun
      -- `RUnlock`
      · have := pos_of_get h (f := Phase.readHeld) (by simp [Phase.readHeld, hrd])
        have := hi.readers
        simp only [Sys.move, hrd, if_true]
        exact hi.of_move h (by simp [Phase.readHeld, hrd]; omega) (by simp [Phase.writeHeld, hrd])
          (by simp [Phase.midWrite]) (fun h' => by have := hi.alone h'; dsimp only; omega) nofun
    | returned answer => exact hi

theorem Sys.Inv.exec {s : Sys} (hi : s.Inv) : ∀ sched : List Nat, (s.exec sched).Inv
  | [] => hi
  | t :: sched => (hi.step t).exec sched

@[simp] theorem Sys.exec_cons (s : Sys) (t : Nat) (sched : List Nat) :
    s.exec (t :: sched) = (s.step t).exec sched := rfl

/-- Steps a caller at `p` has left: take the lock, mark a write, access the map,
release the lock. -/
def Phase.left : Phase → Nat
  | .calling op => if op.reads then 3 else 4
  | .locked op => if op.reads then 2 else 3
  | .writing _ => 2
  | .accessed _ _ => 1
  | .returned _ => 0

/-- Steps the callers have left. -/
def Sys.left (s : Sys) : Nat := (s.callers.map Phase.left).sum

/-- A caller that moves takes one of the steps it has left. -/
theorem Sys.Inv.move_left (hi : s.Inv) (h : s.callers[t]? = some p) :
    (s.move t p).callers = s.callers ∨
      ∃ q, (s.move t p).callers = s.callers.set t q ∧ q.left + 1 = p.left := by
  cases p with
  | calling op =>
    cases hrd : op.reads <;> simp only [Sys.move, hrd, if_true, if_false, Bool.false_eq_true] <;>
      split_ifs <;> first | exact .inl rfl | exact .inr ⟨_, rfl, by simp [Phase.left, hrd]⟩
  | locked op =>
    cases hrd : op.reads <;>
      simp only [Sys.move, hi.no_mark_of_locked h, hrd, if_true, if_false, Bool.false_eq_true] <;>
      exact .inr ⟨_, rfl, by simp [Phase.left, hrd]⟩
  | writing op => exact .inr ⟨_, rfl, rfl⟩
  | accessed op answer =>
    simp only [Sys.move]
    split_ifs <;> exact .inr ⟨_, rfl, rfl⟩
  | returned answer => exact .inl rfl

/-- Each step either leaves the map alone and takes no call into effect, or takes
one call into effect on the map as that call run atomically would. -/
theorem Sys.step_items (s : Sys) (t : Nat) :
    (s.accessOf t = none ∧ (s.step t).cache.items = s.cache.items) ∨
      ∃ op, s.accessOf t = some op ∧ (s.step t).cache.items = (op.run s.cache.items).2 := by
  unfold Sys.accessOf Sys.step
  cases h : s.callers[t]? with
  | none => exact .inl ⟨rfl, rfl⟩
  | some p =>
    cases p with
    | calling op =>
      left
      refine ⟨rfl, ?_⟩
      simp only [Sys.move]
      split_ifs <;> rfl
    | locked op =>
      by_cases hr : op.reads = true ∧ s.cache.hashWriting = false
      · right
        refine ⟨op, if_pos hr, ?_⟩
        cases op <;> simp_all [Sys.move, Op.run, Op.reads]
      · left
        refine ⟨if_neg hr, ?_⟩
        simp only [Sys.move]
        split_ifs <;> rfl
    | writing op => exact .inr ⟨op, rfl, rfl⟩
    | accessed op answer =>
      left
      refine ⟨rfl, ?_⟩
      simp only [Sys.move]
      split_ifs <;> rfl
    | returned answer => exact .inl ⟨rfl, rfl⟩

/-- The map after any interleaving of the callers, and the answer each call gets at
its access, are those of the calls run one atomic step at a time in the order of
their accesses. -/
theorem Sys.exec_trace (s : Sys) :
    ∀ sched : List Nat, runAtomic s.cache.items ((s.trace sched).map Access.op) =
      ((s.trace sched).map Access.answer, (s.exec sched).cache.items)
  | [] => rfl
  | t :: sched => by
    have ih := (s.step t).exec_trace sched
    rcases s.step_items t with ⟨ha, hitems⟩ | ⟨op, ha, hitems⟩
    · simp only [Sys.trace, Sys.stepAccess, ha, Option.toList_none, List.map_nil, List.nil_append,
        Sys.exec_cons]
      rw [← hitems]
      exact ih
    · simp only [Sys.trace, Sys.stepAccess, ha, Option.toList_some, List.map_cons, List.map_nil,
        List.singleton_append, Sys.exec_cons, runAtomic]
      rw [← hitems, ih]

/-! ## What each caller returns

The trace is the history of the interleaving. A caller has no access in it until its
call reaches the map, and from then on exactly one: its own call, with the answer it
carries back. -/

/-- Where caller `t`, making the call `op`, may be after the history `H`: before the
map, with no access in `H`; after it, with exactly one, of its call and the answer it
holds. -/
def Phase.Logged (H : List Access) (t : Nat) (op : Op) : Phase → Prop
  | .calling op' | .locked op' | .writing op' => op' = op ∧ accessesOf H t = []
  | .accessed op' a => op' = op ∧ accessesOf H t = [⟨t, op, a⟩]
  | .returned a => accessesOf H t = [⟨t, op, a⟩]

/-- Every caller is where its call and the history `H` say. -/
def Sys.Logged (ops : List Op) (H : List Access) (s : Sys) : Prop :=
  ∀ (t : Nat) (p : Phase), s.callers[t]? = some p → ∃ op, ops[t]? = some op ∧ p.Logged H t op

theorem accessesOf_stepAccess (s : Sys) (t t' : Nat) :
    accessesOf (s.stepAccess t') t = if t' = t then s.stepAccess t' else [] := by
  unfold accessesOf Sys.stepAccess
  cases s.accessOf t' <;> by_cases h : t' = t <;> simp [h]

/-- The phase of caller `t` after a move depends on the accesses of `t` only. -/
theorem Phase.Logged.congr {H H' : List Access} {t : Nat} {op : Op} {p : Phase}
    (hp : p.Logged H t op) (h : accessesOf H' t = accessesOf H t) : p.Logged H' t op := by
  cases p <;> simpa only [Phase.Logged, h] using hp

theorem init_logged (items : BucketLocationCache) (ops : List Op) :
    (Sys.init items ops).Logged ops [] := fun t p h => by
  simp only [Sys.init, List.getElem?_map, Option.map_eq_some'] at h
  obtain ⟨op, hop, rfl⟩ := h
  exact ⟨op, hop, rfl, rfl⟩

/-- The move of caller `t` keeps it where its call and the history say, the access
its move makes appended. -/
theorem Sys.Inv.move_logged (hi : s.Inv) {H : List Access} {op : Op}
    (h : s.callers[t]? = some p) (hp : p.Logged H t op) :
    ∃ q, (s.move t p).callers[t]? = some q ∧ q.Logged (H ++ s.stepAccess t) t op := by
  obtain ⟨ht, -⟩ := List.getElem?_eq_some_iff.mp h
  have hset (q : Phase) : (s.callers.set t q)[t]? = some q := List.getElem?_set_self ht
  have hone (e : Access) (he : e.caller = t) : accessesOf (H ++ [e]) t = accessesOf H t ++ [e] := by
    simp [accessesOf, List.filter_append, he]
  cases p with
  | calling op' =>
    have hsa : s.stepAccess t = [] := by simp [Sys.stepAccess, Sys.accessOf, h]
    rw [hsa, List.append_nil]
    simp only [Sys.move]
    split_ifs
    all_goals first | exact ⟨_, h, hp⟩ | exact ⟨_, hset _, hp⟩
  | locked op' =>
    have hnm := hi.no_mark_of_locked h
    cases hrd : op'.reads
    -- the mark of a write: no access yet
    · have hsa : s.stepAccess t = [] := by simp [Sys.stepAccess, Sys.accessOf, h, hrd]
      rw [hsa, List.append_nil]
      simp only [Sys.move, hnm, hrd, Bool.false_eq_true, if_false]
      exact ⟨_, hset _, hp⟩
    -- the read: its access, with the answer the caller keeps
    · have hsa : s.stepAccess t = [⟨t, op', (op'.run s.cache.items).1⟩] := by
        simp [Sys.stepAccess, Sys.accessOf, h, hrd, hnm]
      rw [hsa]
      simp only [Sys.move, hnm, hrd, Bool.false_eq_true, if_true, if_false]
      obtain ⟨rfl, hp⟩ := hp
      exact ⟨_, hset _, rfl, by rw [hone _ rfl, hp, List.nil_append]⟩
  -- the commit of a write: its access
  | writing op' =>
    have hsa : s.stepAccess t = [⟨t, op', (op'.run s.cache.items).1⟩] := by
      simp [Sys.stepAccess, Sys.accessOf, h]
    rw [hsa]
    obtain ⟨rfl, hp⟩ := hp
    exact ⟨_, hset _, rfl, by rw [hone _ rfl, hp, List.nil_append]⟩
  | accessed op' a =>
    have hsa : s.stepAccess t = [] := by simp [Sys.stepAccess, Sys.accessOf, h]
    rw [hsa, List.append_nil]
    obtain ⟨rfl, hp⟩ := hp
    simp only [Sys.move]
    split_ifs <;> exact ⟨_, hset _, hp⟩
  | returned a =>
    have hsa : s.stepAccess t = [] := by simp [Sys.stepAccess, Sys.accessOf, h]
    rw [hsa, List.append_nil]
    exact ⟨_, h, hp⟩

/-- Each step keeps every caller where its call and the history say, the step's
access appended to the history. -/
theorem Sys.Inv.logged_step (hi : s.Inv) {ops : List Op} {H : List Access} (hl : s.Logged ops H)
    (t' : Nat) : (s.step t').Logged ops (H ++ s.stepAccess t') := by
  intro t p hp
  by_cases ht : t = t'
  · subst ht
    cases h : s.callers[t]? with
    | none => simp [Sys.step, h] at hp
    | some p₀ =>
      obtain ⟨op, hop, hl₀⟩ := hl t p₀ h
      obtain ⟨q, hq, hlq⟩ := hi.move_logged h hl₀
      simp only [Sys.step, h, hq, Option.some.injEq] at hp
      exact ⟨op, hop, hp ▸ hlq⟩
  · have hsame : (s.step t').callers[t]? = s.callers[t]? := by
      cases h' : s.callers[t']? with
      | none => simp only [Sys.step, h']
      | some p' =>
        simp only [Sys.step, h']
        rcases hi.move_left h' with he | ⟨q, he, -⟩
        · rw [he]
        · rw [he, List.getElem?_set_ne (Ne.symm ht)]
    obtain ⟨op, hop, hlp⟩ := hl t p (hsame ▸ hp)
    refine ⟨op, hop, hlp.congr ?_⟩
    rw [accessesOf, List.filter_append, ← accessesOf, ← accessesOf, accessesOf_stepAccess,
      if_neg (Ne.symm ht), List.append_nil]

theorem Sys.Inv.logged_exec (hi : s.Inv) {ops : List Op} {H : List Access} (hl : s.Logged ops H)
    (sched : List Nat) : (s.exec sched).Logged ops (H ++ s.trace sched) := by
  induction sched generalizing s H with
  | nil => simpa [Sys.trace] using hl
  | cons t sched ih =>
    have := ih (hi.step t) (hi.logged_step hl t)
    rwa [List.append_assoc] at this

/-- Every interleaving of `Get`, `Set` and `Delete` calls under the lock behaves as
the atomic calls the other modules use: it never stops on a concurrent map access;
the answers the calls get at the map, and the map after it, are those of the calls run
one at a time in the order they reach the map; and every caller that has returned
returns the answer its one access got. -/
theorem lock_linearizes (items : BucketLocationCache) (ops : List Op) (sched : List Nat) :
    ((Sys.init items ops).exec sched).fatal = false ∧
      runAtomic items (((Sys.init items ops).trace sched).map Access.op) =
        (((Sys.init items ops).trace sched).map Access.answer,
          ((Sys.init items ops).exec sched).cache.items) ∧
      ∀ t a, ((Sys.init items ops).exec sched).callers[t]? = some (.returned a) →
        ∃ op, ops[t]? = some op ∧
          accessesOf ((Sys.init items ops).trace sched) t = [⟨t, op, a⟩] := by
  have hi := (init_inv items ops).exec sched
  refine ⟨hi.notFatal, (Sys.init items ops).exec_trace sched, fun t a h => ?_⟩
  have hl := (init_inv items ops).logged_exec (init_logged items ops) sched t _ h
  simpa only [List.nil_append, Phase.Logged] using hl

end

end MefsSdk.CacheLock
