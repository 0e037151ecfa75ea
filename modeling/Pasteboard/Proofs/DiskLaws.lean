import Mathlib.Tactic.Common
import Pasteboard.Disk.Basic

/-!
# Laws of the disk

What the calls on a disk do, one lemma for each call, so that no proof beyond this module looks into
a call again. A call either fails and leaves the disk as it is, or puts or erases the one node that
its path leads to; it fails with a failure of the operating system, or because a path is none
(`Failure.FromCall`).

A walk along a path is good as long as the directories on its way stay (`Disk.find_of_keepsWay`).
This is what carries an answer of `Disk.find` over to a later disk: calls only ever add directories,
and `Disk.Grown` says which ones making directories along a path can add.
-/

namespace Pasteboard

namespace Path

/-- The path one name on: back to where a directory is, or into it. -/
def advance (p : Path) (name : Text) : Path := if name = back then p.parent else p.child name

/-- Following the path, one comes by `q`. -/
def LeadsThrough (p q : Path) : Prop :=
  ∃ names, names <+: p.names ∧ names.foldl advance ⟨p.anchor, []⟩ = q

theorem resolved_eq_foldl (p : Path) : p.resolved = p.names.foldl advance ⟨p.anchor, []⟩ := by
  have key : ∀ (names done : List Text),
      names.foldl advance ⟨p.anchor, done⟩ =
        ⟨p.anchor, names.foldl (fun done name =>
          if name = back then done.dropLast else done ++ [name]) done⟩ := by
    intro names
    induction names with
    | nil => exact fun _ => rfl
    | cons name rest ih =>
      intro done
      rw [List.foldl_cons, List.foldl_cons, ← ih, advance]
      split <;> rfl
  rw [key]
  rfl

theorem leadsThrough_resolved (p : Path) : p.LeadsThrough p.resolved :=
  ⟨p.names, List.prefix_refl _, (resolved_eq_foldl p).symm⟩

theorem resolved_child (p : Path) (name : Text) :
    (p.child name).resolved = p.resolved.advance name := by
  rw [resolved_eq_foldl, resolved_eq_foldl p, child, List.foldl_append]
  rfl

/-- What a path leads through is on the way of the path one name on. -/
theorem LeadsThrough.child {p q : Path} (h : p.LeadsThrough q) (name : Text) :
    (p.child name).LeadsThrough q := by
  obtain ⟨names, hn, hq⟩ := h
  exact ⟨names, hn.trans (List.prefix_append _ _), hq⟩

/-- A name of a resolved path is a name of the path, and none that leads back. -/
theorem mem_of_mem_resolved {p : Path} {name : Text} (h : name ∈ p.resolved.names) :
    name ∈ p.names ∧ name ≠ back := by
  have key : ∀ (names done : List Text),
      name ∈ names.foldl (fun done name => if name = back then done.dropLast else done ++ [name])
        done → name ∈ done ∨ (name ∈ names ∧ name ≠ back) := by
    intro names
    induction names with
    | nil => exact fun _ => .inl
    | cons first rest ih =>
      intro done hm
      rw [List.foldl_cons] at hm
      rcases ih _ hm with hm | ⟨hm, hne⟩
      · split at hm
        · exact .inl (List.dropLast_subset _ hm)
        · rcases List.mem_append.1 hm with hm | hm
          · exact .inl hm
          · rw [List.mem_singleton] at hm
            subst hm
            exact .inr ⟨List.mem_cons_self, ‹_›⟩
      · exact .inr ⟨List.mem_cons_of_mem _ hm, hne⟩
  rcases key p.names [] h with h | h
  · cases h
  · exact h

/-- A path without names that lead back is resolved. -/
theorem resolved_of_plain {p : Path} (h : back ∉ p.names) : p.resolved = p := by
  have key : ∀ (names done : List Text), back ∉ names →
      names.foldl (fun done name => if name = back then done.dropLast else done ++ [name]) done =
        done ++ names := by
    intro names
    induction names with
    | nil => exact fun done _ => (List.append_nil done).symm
    | cons first rest ih =>
      intro done hb
      rw [List.mem_cons, not_or] at hb
      rw [List.foldl_cons, if_neg (Ne.symm hb.1), ih _ hb.2, List.append_assoc]
      rfl
  rw [resolved, key _ _ h]
  rfl

theorem resolved_resolved (p : Path) : p.resolved.resolved = p.resolved :=
  resolved_of_plain fun h => (mem_of_mem_resolved h).2 rfl

theorem resolved_child_of_ne {p : Path} {name : Text} (h : name ≠ back) :
    (p.child name).resolved = p.resolved.child name := by
  rw [resolved_child, advance, if_neg h]

/-- Different names in a directory are different paths. -/
theorem child_inj {p : Path} {m n : Text} (h : p.child m = p.child n) : m = n := by
  have hn : p.names ++ [m] = p.names ++ [n] := congrArg names h
  exact List.head_eq_of_cons_eq (List.append_cancel_left hn)

theorem isUnnameable_child (p : Path) (name : Text) :
    (p.child name).isUnnameable = (p.isUnnameable || name.any CodePoint.isUnnameable) := by
  simp [isUnnameable, child, Bool.or_assoc]

/-- What no name holds is in a path if it is in the resolved path. -/
theorem isUnnameable_of_resolved {p : Path} (h : p.resolved.isUnnameable = true) :
    p.isUnnameable = true := by
  rw [isUnnameable, Bool.or_eq_true] at h ⊢
  refine h.imp_right fun hnames => ?_
  obtain ⟨name, hm, hn⟩ := List.any_eq_true.1 hnames
  exact List.any_eq_true.2 ⟨name, (mem_of_mem_resolved hm).1, hn⟩

/-- A path that the system cannot be asked about fails as such. -/
theorem blamesPath_failure (p : Path) : p.failure.blamesPath = true := by
  rw [failure, Text.encodingFailure?]
  cases p.text.findIdx? CodePoint.lacksOctets <;> rfl

end Path

theorem DiskCall.blamesPath_pathFailure (c : DiskCall) : c.pathFailure.blamesPath = true := by
  cases c with
  | rename p q =>
    rw [pathFailure]
    split <;> exact Path.blamesPath_failure _
  | _ => exact Path.blamesPath_failure _

/-- The system is not asked about a path that is none. -/
theorem Failure.isSystem_of_blamesPath {f : Failure} (h : f.blamesPath = true) :
    f.isSystem = false := by
  cases f with
  | system e => cases h
  | _ => rfl

/-- A path that is none is no file that is missing. -/
theorem Failure.isMissing_of_blamesPath {f : Failure} (h : f.blamesPath = true) :
    f.isMissing = false := by
  cases f with
  | system e => cases h
  | _ => rfl

/-- The failure is one that a call on the disk can have: it comes from the operating system, or a
path of the call is none that the system can be asked about. -/
def Failure.FromCall (bad : Bool) (f : Failure) : Prop :=
  f.isSystem = true ∨ (f.blamesPath = true ∧ bad = true)

theorem Failure.FromCall.mono {m n : Bool} {f : Failure} (h : f.FromCall m)
    (hmn : m = true → n = true) : f.FromCall n :=
  h.imp_right fun ⟨hf, hm⟩ => ⟨hf, hmn hm⟩

namespace Disk

/-! ### Nodes -/

theorem node?_of_names_eq_nil (d : Disk) {p : Path} (h : p.names = []) :
    d.node? p = some .directory := by
  rw [node?, h]
  rfl

/-- Where there is no directory, the path has a name. -/
theorem names_ne_nil {d : Disk} {p : Path} (h : d.node? p ≠ some .directory) : p.names ≠ [] :=
  fun hn => h (node?_of_names_eq_nil d hn)

theorem node?_put (d : Disk) {p : Path} (hp : p.resolved.names ≠ []) (n : Node) (q : Path) :
    (d.put p n).node? q = if q = p.resolved then some n else d.node? q := by
  by_cases hq : q = p.resolved
  · rw [if_pos hq, node?, if_neg (by rw [hq, List.isEmpty_iff]; exact hp), put]
    dsimp only
    rw [List.find?_cons_of_pos (by simp [hq])]
    rfl
  · have hrest : ∀ entries : List (Path × Node),
        (entries.filter fun entry => !decide (entry.1 = p.resolved)).find?
          (fun entry => decide (entry.1 = q)) =
            entries.find? fun entry => decide (entry.1 = q) := by
      intro entries
      rw [List.find?_filter]
      congr 1
      funext entry
      by_cases he : entry.1 = q <;> simp [he, hq]
    rw [if_neg hq, node?, node?, put]
    dsimp only
    rw [List.find?_cons_of_neg (by rw [decide_eq_true_eq]; exact fun h => hq h.symm), hrest]

theorem node?_erase (d : Disk) {p : Path} (hp : p.resolved.names ≠ []) (q : Path) :
    (d.erase p).node? q = if q = p.resolved then none else d.node? q := by
  rw [node?, node?, erase, List.find?_filter]
  by_cases hq : q = p.resolved
  · rw [if_pos hq, if_neg (by rw [hq, List.isEmpty_iff]; exact hp)]
    have hnone : d.entries.find? (fun entry =>
        decide ((!decide (entry.1 = p.resolved)) = true ∧ decide (entry.1 = q) = true)) = none := by
      rw [List.find?_eq_none]
      intro entry _
      simp [hq]
    rw [hnone]
    rfl
  · rw [if_neg hq]
    congr 3
    funext entry
    by_cases he : entry.1 = q <;> simp [he, hq]

/-! ### Walks -/

theorem walk_cons {d : Disk} {start : Path} {name : Text} {rest : List Text} {n : Option Node} :
    d.walk start (name :: rest) = .ok n ↔
      d.node? start = some .directory ∧ (name = Path.back ∨ octets name ≤ longestName) ∧
        d.walk (start.advance name) rest = .ok n := by
  rw [walk, Path.advance]
  split
  · next h => simp [h]
  · next h => simp [h]
  · next h =>
    split
    · next hb => simp [h, hb]
    · next hb =>
      split
      · next hl => simp [hb, Nat.not_le_of_lt hl]
      · next hl => simp [h, hb, Nat.not_lt.1 hl]

theorem node?_of_walk {d : Disk} {n : Option Node} (names : List Text) (start : Path)
    (h : d.walk start names = .ok n) : d.node? (names.foldl Path.advance start) = n := by
  induction names generalizing start with
  | nil => cases h; rfl
  | cons name rest ih => exact ih _ (walk_cons.1 h).2.2

/-- What is found at a path is what is there. -/
theorem node?_of_find {d : Disk} {p : Path} {n : Option Node} (h : d.find p = .ok n) :
    d.node? p.resolved = n := by
  rw [find] at h
  split at h
  · cases h
  · rw [Path.resolved_eq_foldl]
    exact node?_of_walk _ _ h

/-- The directories that the path leads through in `d` are there in `e` as well. -/
def KeepsWay (p : Path) (d e : Disk) : Prop :=
  ∀ q, p.LeadsThrough q → d.node? q = some .directory → e.node? q = some .directory

/-- A walk that is good stays so while the directories on its way stay. -/
theorem walk_of_keeps {d e : Disk} {n : Option Node} (names : List Text) (start : Path)
    (hway : ∀ front, front <+: names → d.node? (front.foldl Path.advance start) = some .directory →
      e.node? (front.foldl Path.advance start) = some .directory)
    (h : d.walk start names = .ok n) :
    e.walk start names = .ok (e.node? (names.foldl Path.advance start)) := by
  induction names generalizing start with
  | nil => rfl
  | cons name rest ih =>
    obtain ⟨hstart, hname, hrest⟩ := walk_cons.1 h
    refine walk_cons.2 ⟨hway [] (List.nil_prefix) hstart, hname, ih _ (fun front hf => ?_) hrest⟩
    exact hway (name :: front) (List.cons_prefix_cons.2 ⟨rfl, hf⟩)

/-- **A path that could be followed can be followed as long as the directories on its way stay.** -/
theorem find_of_keepsWay {p : Path} {d e : Disk} {n : Option Node} (hway : KeepsWay p d e)
    (h : d.find p = .ok n) : e.find p = .ok (e.node? p.resolved) := by
  rw [find] at h ⊢
  split at h
  · cases h
  · next hlong =>
    rw [if_neg hlong, Path.resolved_eq_foldl]
    exact walk_of_keeps _ _ (fun front hf => hway _ ⟨front, hf, rfl⟩) h

theorem KeepsWay.refl (p : Path) (d : Disk) : KeepsWay p d d := fun _ _ h => h

theorem KeepsWay.trans {p : Path} {d e f : Disk} (h₁ : KeepsWay p d e) (h₂ : KeepsWay p e f) :
    KeepsWay p d f := fun q hq h => h₂ q hq (h₁ q hq h)

/-- Putting a node where no directory is takes no directory away. -/
theorem keepsWay_put {d : Disk} {q : Path} (hq : d.node? q.resolved ≠ some .directory) (n : Node)
    (p : Path) : KeepsWay p d (d.put q n) := by
  intro r _ hr
  rw [node?_put d (names_ne_nil hq), if_neg (by rintro rfl; exact hq hr)]
  exact hr

/-- Erasing what is no directory takes no directory away. -/
theorem keepsWay_erase {d : Disk} {q : Path} (hq : d.node? q.resolved ≠ some .directory)
    (p : Path) : KeepsWay p d (d.erase q) := by
  intro r _ hr
  rw [node?_erase d (names_ne_nil hq), if_neg (by rintro rfl; exact hq hr)]
  exact hr

/-! ### Calls -/

@[simp] theorem start_look (p : Path) (d : Disk) :
    (look p).start d = ((d.find p).mapError (·.failureAt p), d) := rfl

/-- A call with a path that is none and a call that is refused fail at once; any other one is let
through. -/
theorem start_call_cases {α : Type} (c : DiskCall) (a : Action Disk α) (d : Disk) :
    (c.isUnnameable = true ∧ (call c a).start d = (.error c.pathFailure, d)) ∨
      (c.isUnnameable = false ∧ ∃ e, d.refusal c = some e ∧
        (call c a).start d = (.error (.system e), d)) ∨
      (c.isUnnameable = false ∧ d.refusal c = none ∧ (call c a).start d = a.start d) := by
  rw [call, Action.start_ofFunction]
  cases hn : c.isUnnameable with
  | true => exact .inl ⟨rfl, rfl⟩
  | false =>
    rcases hr : d.refusal c with _ | e
    · exact .inr (.inr ⟨rfl, rfl, rfl⟩)
    · exact .inr (.inl ⟨rfl, e, rfl, rfl⟩)

theorem start_call_of_refused {α : Type} {c : DiskCall} {d : Disk} {e : SystemError}
    (hnameable : c.isUnnameable = false) (h : d.refusal c = some e) (a : Action Disk α) :
    (call c a).start d = (.error (.system e), d) := by
  rw [call, Action.start_ofFunction, hnameable, h]
  rfl

theorem start_call_of_allowed {α : Type} {c : DiskCall} {d : Disk}
    (hnameable : c.isUnnameable = false) (h : d.refusal c = none) (a : Action Disk α) :
    (call c a).start d = a.start d := by
  rw [call, Action.start_ofFunction, hnameable, h]
  rfl

/-- The same with one word for both kinds of failure. -/
theorem call_cases {α : Type} (c : DiskCall) (a : Action Disk α) (d : Disk) :
    (∃ f, (call c a).start d = (.error f, d) ∧ f.FromCall c.isUnnameable) ∨
      (c.isUnnameable = false ∧ (call c a).start d = a.start d) := by
  rcases start_call_cases c a d with ⟨hn, h⟩ | ⟨-, e, -, h⟩ | ⟨hn, -, h⟩
  · exact .inl ⟨_, h, .inr ⟨c.blamesPath_pathFailure, hn⟩⟩
  · exact .inl ⟨_, h, .inl rfl⟩
  · exact .inr ⟨hn, h⟩

theorem makeDirectory_cases (p : Path) (d : Disk) :
    (∃ f, (makeDirectory p).start d = (.error f, d) ∧ f.FromCall p.isUnnameable) ∨
      (d.find p = .ok none ∧ (makeDirectory p).start d = (.ok (), d.put p .directory)) := by
  rw [makeDirectory]
  rcases call_cases (.makeDirectory p) _ d with ⟨f, h, hf⟩ | ⟨-, h⟩
  · exact .inl ⟨f, h, hf⟩
  · rw [h, Action.start_bind, start_look]
    rcases hfind : d.find p with o | _ | n
    · exact .inl ⟨_, rfl, .inl rfl⟩
    · exact .inr ⟨rfl, rfl⟩
    · exact .inl ⟨_, rfl, .inl rfl⟩

theorem create_cases (p : Path) (d : Disk) :
    (∃ f, (create p).start d = (.error f, d) ∧ f.FromCall p.isUnnameable) ∨
      (p.isUnnameable = false ∧ d.find p = .ok none ∧
        (create p).start d = (.ok (), d.put p (.file [] false))) := by
  rw [create]
  rcases call_cases (.create p) _ d with ⟨f, h, hf⟩ | ⟨hn, h⟩
  · exact .inl ⟨f, h, hf⟩
  · rw [h, Action.start_bind, start_look]
    rcases hfind : d.find p with o | _ | n
    · exact .inl ⟨_, rfl, .inl rfl⟩
    · exact .inr ⟨hn, rfl, rfl⟩
    · exact .inl ⟨_, rfl, .inl rfl⟩

theorem append_cases (p : Path) (content : Bytes) (d : Disk) :
    (∃ f, (append p content).start d = (.error f, d) ∧ f.FromCall p.isUnnameable) ∨
      ∃ old x, d.find p = .ok (some (.file old x)) ∧
        (append p content).start d = (.ok (), d.put p (.file (old ++ content) x)) := by
  rw [append]
  rcases call_cases (.append p) _ d with ⟨f, h, hf⟩ | ⟨-, h⟩
  · exact .inl ⟨f, h, hf⟩
  · rw [h, Action.start_bind, start_look]
    rcases hfind : d.find p with o | _ | ⟨old, x⟩ | _
    · exact .inl ⟨_, rfl, .inl rfl⟩
    · exact .inl ⟨_, rfl, .inl rfl⟩
    · exact .inr ⟨old, x, rfl, rfl⟩
    · exact .inl ⟨_, rfl, .inl rfl⟩

/-- What is put where something was put takes its place. -/
theorem put_put (d : Disk) (p : Path) (m n : Node) : (d.put p m).put p n = d.put p n := by
  simp [put, List.filter_filter]

/-- Octets may be added in two portions. -/
theorem start_append_append (p : Path) (front back : Bytes) (d : Disk) :
    (append p (front ++ back)).start d =
      (do append p front; append p back : Action Disk Unit).start d := by
  rw [Action.start_bind]
  simp only [append, call, Action.start_ofFunction]
  split
  · rfl
  · next hnameable =>
    rcases hr : d.refusal (.append p) with _ | e
    · simp only [Action.start_bind, start_look]
      rcases hfind : d.find p with o | _ | ⟨old, x⟩ | _
      · rfl
      · rfl
      · -- the second portion finds the file with the first one in it
        have hnode : d.node? p.resolved ≠ some .directory := by
          rw [node?_of_find hfind]
          nofun
        have hfind' : (d.put p (.file (old ++ front) x)).find p =
            .ok (some (.file (old ++ front) x)) := by
          rw [find_of_keepsWay (keepsWay_put hnode _ p) hfind, node?_put d (names_ne_nil hnode),
            if_pos rfl]
        have hr' : (d.put p (.file (old ++ front) x)).refusal (.append p) = none := hr
        simp only [Except.mapError, Action.start_update, hr', hfind', put_put, List.append_assoc]
      · rfl
    · rfl

theorem rename_cases (source target : Path) (d : Disk) :
    (∃ f, (rename source target).start d = (.error f, d) ∧
        f.FromCall (source.isUnnameable || target.isUnnameable)) ∨
      ∃ node n, target.isUnnameable = false ∧ d.find source = .ok (some node) ∧
        d.find target = .ok n ∧ n ≠ some .directory ∧
        (rename source target).start d = (.ok (), (d.erase source).put target node) := by
  rw [rename]
  rcases call_cases (.rename source target) _ d with ⟨f, h, hf⟩ | ⟨hn, h⟩
  · exact .inl ⟨f, h, hf⟩
  · rw [h, Action.start_bind, Action.start_mapFailure, start_look]
    rcases hs : d.find source with o | _ | node
    · exact .inl ⟨_, rfl, .inl rfl⟩
    · exact .inl ⟨_, rfl, .inl rfl⟩
    · simp only [Except.mapError, Action.start_bind, Action.start_ofFunction]
      have htarget : target.isUnnameable = false := (Bool.or_eq_false_iff.1 hn).2
      rcases ht : d.find target with o | _ | ⟨content, x⟩ | _
      · exact .inl ⟨_, rfl, .inl rfl⟩
      · exact .inr ⟨node, none, htarget, rfl, rfl, nofun, rfl⟩
      · exact .inr ⟨node, _, htarget, rfl, rfl, nofun, rfl⟩
      · exact .inl ⟨_, rfl, .inl rfl⟩

theorem remove_cases (p : Path) (d : Disk) :
    (∃ f, (remove p).start d = (.error f, d) ∧ f.FromCall p.isUnnameable) ∨
      ∃ content x, d.find p = .ok (some (.file content x)) ∧
        (remove p).start d = (.ok (), d.erase p) := by
  rw [remove]
  rcases call_cases (.remove p) _ d with ⟨f, h, hf⟩ | ⟨-, h⟩
  · exact .inl ⟨f, h, hf⟩
  · rw [h, Action.start_bind, start_look]
    rcases hfind : d.find p with o | _ | ⟨content, x⟩ | _
    · exact .inl ⟨_, rfl, .inl rfl⟩
    · exact .inl ⟨_, rfl, .inl rfl⟩
    · exact .inr ⟨content, x, rfl, rfl⟩
    · exact .inl ⟨_, rfl, .inl rfl⟩

/-- No refusal to remove the file at a path claims that the file is missing. -/
def HonestAt (p : Path) (d : Disk) : Prop :=
  ∀ e, d.refusal (.remove p) = some e → (Failure.system e).isMissing = false

theorem HonestAt.congr {p : Path} {d e : Disk} (h : d.HonestAt p) (he : e.refusal = d.refusal) :
    e.HonestAt p := by
  rwa [HonestAt, he]

theorem honestAt_of_refusal {p : Path} {d : Disk} (h : d.refusal (.remove p) = none) :
    d.HonestAt p := by
  intro e he
  rw [h] at he
  cases he

/-- Removing a file that is there fails because it is refused, or erases the file. -/
theorem removeIfPresent_of_file {p : Path} {d : Disk} {content : Bytes} {x : Bool}
    (hd : d.HonestAt p) (hfind : d.find p = .ok (some (.file content x))) :
    (∃ f, (removeIfPresent p).start d = (.error f, d) ∧ f.FromCall p.isUnnameable ∧
        (p.isUnnameable = false → d.refusal (.remove p) ≠ none)) ∨
      (removeIfPresent p).start d = (.ok (), d.erase p) := by
  rw [removeIfPresent, Action.start_tryCatch, remove]
  rcases start_call_cases (.remove p) _ d with ⟨hn, h⟩ | ⟨-, e, hr, h⟩ | ⟨-, -, h⟩
  · rw [h]
    have hblames := (DiskCall.remove p).blamesPath_pathFailure
    refine .inl ⟨_, ?_, .inr ⟨hblames, hn⟩, fun hp => ?_⟩
    · simp only [Failure.isMissing_of_blamesPath hblames, Bool.false_eq_true, if_false,
        Action.start_throw]
    · rw [DiskCall.isUnnameable, hp] at hn
      cases hn
  · rw [h]
    refine .inl ⟨.system e, ?_, .inl rfl, fun _ => ?_⟩
    · simp only [hd e hr, Bool.false_eq_true, if_false, Action.start_throw]
    · rw [hr]
      nofun
  · rw [h, Action.start_bind, start_look, hfind]
    exact .inr rfl

theorem removeIfPresent_cases (p : Path) (d : Disk) :
    (∃ f, (removeIfPresent p).start d = (.error f, d) ∧ f.FromCall p.isUnnameable) ∨
      (∃ content x, d.find p = .ok (some (.file content x)) ∧
        (removeIfPresent p).start d = (.ok (), d.erase p)) ∨
      (removeIfPresent p).start d = (.ok (), d) := by
  rw [removeIfPresent, Action.start_tryCatch]
  rcases remove_cases p d with ⟨f, h, hf⟩ | ⟨content, x, hfind, h⟩
  · rw [h]
    dsimp only
    cases hm : f.isMissing with
    | true => exact .inr (.inr rfl)
    | false => exact .inl ⟨f, rfl, hf⟩
  · rw [h]
    exact .inr (.inl ⟨content, x, hfind, rfl⟩)

/-! ### Making directories -/

/-- `e` is `d` with directories, on the way along `p`, where nothing was. -/
structure Grown (p : Path) (d e : Disk) : Prop where
  refusal : e.refusal = d.refusal
  node : ∀ q, e.node? q = d.node? q ∨
    (p.LeadsThrough q ∧ d.node? q = none ∧ e.node? q = some .directory)

namespace Grown

variable {p : Path} {d e f : Disk}

theorem refl (p : Path) (d : Disk) : Grown p d d := ⟨rfl, fun _ => .inl rfl⟩

theorem trans (h₁ : Grown p d e) (h₂ : Grown p e f) : Grown p d f := by
  refine ⟨h₂.refusal.trans h₁.refusal, fun q => ?_⟩
  rcases h₁.node q with he | ⟨hp, hd, he⟩
  · rw [← he]
    exact h₂.node q
  · rcases h₂.node q with hf | ⟨-, hn, -⟩
    · exact .inr ⟨hp, hd, hf.trans he⟩
    · rw [he] at hn
      cases hn

theorem child (h : Grown p d e) (name : Text) : Grown (p.child name) d e :=
  ⟨h.refusal, fun q => (h.node q).imp_right fun ⟨hp, hq⟩ => ⟨hp.child name, hq⟩⟩

theorem put_directory (h : d.node? p.resolved = none) : Grown p d (d.put p .directory) := by
  refine ⟨rfl, fun q => ?_⟩
  rw [node?_put d (names_ne_nil (by rw [h]; nofun))]
  split
  · next hq => exact .inr ⟨hq ▸ p.leadsThrough_resolved, hq ▸ h, rfl⟩
  · exact .inl rfl

/-- Where nothing is, nothing was. -/
theorem node?_eq_none (h : Grown p d e) {q : Path} (he : e.node? q = none) :
    d.node? q = none := by
  rcases h.node q with hq | ⟨-, hn, -⟩
  · rw [← hq, he]
  · exact hn

end Grown

theorem ensureDirectory_cases (p : Path) (d : Disk) :
    ∃ e, Grown p d e ∧
      ((∃ f, (ensureDirectory p).start d = (.error f, e) ∧ f.FromCall p.isUnnameable) ∨
        (ensureDirectory p).start d = (.ok (), e)) := by
  rw [ensureDirectory, Action.start_tryCatch]
  rcases makeDirectory_cases p d with ⟨f, h, hf⟩ | ⟨hfind, h⟩
  · refine ⟨d, .refl p d, ?_⟩
    rw [h]
    simp only [Action.start_bind, Action.start_ask]
    split
    · exact .inr rfl
    · exact .inl ⟨f, rfl, hf⟩
  · exact ⟨_, .put_directory (node?_of_find hfind), .inr (by rw [h])⟩

/-- Making directories from the last one up: by induction on the names that are left, each of which
adds at most its own directory. -/
theorem makeDirectoriesFrom_cases (anchor : Text) (names : List Text) (d : Disk) :
    ∃ e, Grown ⟨anchor, names.reverse⟩ d e ∧
      ((∃ f, (makeDirectoriesFrom anchor names).start d = (.error f, e) ∧
          f.FromCall (Path.isUnnameable ⟨anchor, names.reverse⟩)) ∨
        (makeDirectoriesFrom anchor names).start d = (.ok (), e)) := by
  induction names generalizing d with
  | nil => exact ensureDirectory_cases ⟨anchor, []⟩ d
  | cons name above ih =>
    have hp : (⟨anchor, (name :: above).reverse⟩ : Path) =
        Path.child ⟨anchor, above.reverse⟩ name := by
      rw [List.reverse_cons]
      rfl
    rw [makeDirectoriesFrom, Action.start_tryCatch]
    rcases makeDirectory_cases ⟨anchor, (name :: above).reverse⟩ d with ⟨f, h, hf⟩ | ⟨hfind, h⟩
    · rw [h]
      dsimp only
      cases hm : f.isMissing with
      | true =>
        -- the directory above is missing: it is made first, and then this one is tried again
        obtain ⟨e, hgrown, he⟩ := ih d
        rw [if_pos rfl, Action.start_bind]
        rcases he with ⟨g, hg, hfrom⟩ | he
        · refine ⟨e, hp ▸ hgrown.child name, .inl ⟨g, by rw [hg], hfrom.mono fun hn => ?_⟩⟩
          rw [hp, Path.isUnnameable_child, hn, Bool.true_or]
        · rw [he]
          obtain ⟨e', hgrown', h'⟩ := ensureDirectory_cases ⟨anchor, (name :: above).reverse⟩ e
          exact ⟨e', (hp ▸ hgrown.child name : Grown _ d e).trans hgrown', h'⟩
      | false =>
        refine ⟨d, .refl _ d, ?_⟩
        rw [if_neg Bool.false_ne_true]
        cases hs : f.isSystem with
        | true =>
          simp only [Action.start_bind, Action.start_ask, Bool.true_and]
          split
          · exact .inr rfl
          · exact .inl ⟨f, rfl, hf⟩
        | false => exact .inl ⟨f, rfl, hf⟩
    · exact ⟨_, .put_directory (node?_of_find hfind), .inr (by rw [h])⟩

theorem makeDirectories_cases (p : Path) (d : Disk) :
    ∃ e, Grown p d e ∧
      ((∃ f, (makeDirectories p).start d = (.error f, e) ∧ f.FromCall p.isUnnameable) ∨
        (makeDirectories p).start d = (.ok (), e)) := by
  have h := makeDirectoriesFrom_cases p.anchor p.names.reverse d
  rwa [List.reverse_reverse] at h

/-- Of the names for a file, the first one that is not taken is used, unless creating fails with
something other than that the name is taken. -/
theorem createUnder_cases (directory : Path) (names : List Text) (d : Disk) :
    (∃ f, (createUnder directory names).start d = (.error f, d) ∧
        f.FromCall (names.any fun name => (directory.child name).isUnnameable)) ∨
      ∃ name ∈ names, (directory.child name).isUnnameable = false ∧
        d.find (directory.child name) = .ok none ∧
        (createUnder directory names).start d =
          (.ok (directory.child name), d.put (directory.child name) (.file [] false)) := by
  induction names with
  | nil => exact .inl ⟨_, rfl, .inl rfl⟩
  | cons name rest ih =>
    rw [createUnder, Action.start_tryCatch, Action.start_bind]
    rcases create_cases (directory.child name) d with ⟨f, h, hf⟩ | ⟨hn, hfind, h⟩
    · rw [h]
      dsimp only
      cases hp : f.isPresent with
      | true =>
        -- the name is taken, so the others are tried
        rw [if_pos rfl]
        rcases ih with ⟨g, hg, hfrom⟩ | ⟨m, hm, hrest⟩
        · refine .inl ⟨g, hg, hfrom.mono fun hbad => ?_⟩
          rw [List.any_cons, hbad, Bool.or_true]
        · exact .inr ⟨m, List.mem_cons_of_mem _ hm, hrest⟩
      | false =>
        refine .inl ⟨f, rfl, hf.mono fun hbad => ?_⟩
        rw [List.any_cons, hbad, Bool.true_or]
    · exact .inr ⟨name, List.mem_cons_self, hn, hfind, by rw [h]; rfl⟩

end Disk

end Pasteboard
