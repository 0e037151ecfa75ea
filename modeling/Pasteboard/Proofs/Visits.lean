import Pasteboard.Proofs.Course
import Pasteboard.Proofs.Lifecycle

/-!
# Visits to a clipboard

A transfer visits a clipboard: it asks for a handle, uses one hook of it and has it released. Seen
from the handle it is a use like any other (`Clipboard.start_transfer_eq_run`), so what is known
about the life of a handle holds for it. Two questions are settled for clipboards that do anything.

* How does one transfer end? `Clipboard.Ends` reads that off what the clipboard and the hooks do, in
  terms of their failures alone, and `Clipboard.transfer_ends` says that it is right.
* What becomes of the handles? A clipboard is made to keep a log (`Clipboard.logged`), in which each
  transfer leaves one `Visit`. A log of visits is orderly (`Entry.Orderly`): one more visit
  preserves this, and so does a series of transfers, which therefore has at most one live handle at
  any time and leaves none (`Clipboard.one_handle_each`).
-/

namespace Pasteboard

variable {α σ τ : Type}

/-! ### Clipboards with a log -/

/-- An entry in the log of a clipboard. Handles are numbered in the order in which they are handed
out. -/
inductive Entry
  /-- A handle was asked for in vain. -/
  | refused
  /-- A handle was handed out, released already or not. -/
  | handed (number : Nat) (closed : Bool)
  /-- A hook of a handle ran. -/
  | used (number : Nat) (use : Use)
deriving DecidableEq

namespace Entry

/-- What was done with the clipboard. -/
def use : Entry → Use
  | refused => .acquire
  | handed _ _ => .acquire
  | used _ u => u

/-- A handle was handed out. -/
def isHanded : Entry → Bool
  | handed _ _ => true
  | _ => false

/-- The entry is about the handle with a number. -/
def isAbout (number : Nat) : Entry → Bool
  | refused => false
  | handed n _ => n == number
  | used n _ => n == number

/-- The number of handles that were handed out. -/
def handedOut (log : List Entry) : Nat := log.countP isHanded

/-- The handles that are live after an entry. -/
def liveAfter (live : List Nat) : Entry → List Nat
  | handed n false => n :: live
  | used n .release => live.erase n
  | _ => live

/-- The handles that were handed out open and have not been released. -/
def live (log : List Entry) : List Nat := log.foldl liveAfter []

end Entry

/-- The clipboard, with a log of the handles that it hands out and of what is done with them. -/
def Clipboard.logged (p : Clipboard σ) : Clipboard (Logged Entry σ) where
  acquire := .ofFunction fun s =>
    let number := Entry.handedOut s.log
    match p.acquire.start s.state with
    | (.error f, t) => (.error f, ⟨t, s.log ++ [.refused]⟩)
    | (.ok h, t) => (.ok (h.logged (.used number)), ⟨t, s.log ++ [.handed number h.closed]⟩)

/-! ### A transfer is a use of a handle -/

namespace Request

/-- The hook that a request is for. -/
def use : Request → Use
  | copy _ => .set
  | read => .get

/-- The step that serves a request. -/
def step : Request → Handle.Step
  | copy t => .set (.text t)
  | read => .get

/-- What is done with a handle for a request: its step in a block, whose failures get a tag. -/
def usage (r : Request) : Handle.Usage :=
  .block (.step r.step fun result => .finish (result.mapError (.asOperation r.operation))) .finish

theorem uses_step (r : Request) : r.step.uses = [r.use] := by cases r <;> rfl

/-- No request by itself releases a handle. -/
theorem after_step (r : Request) (h : Handle σ) : h.after r.step = h := by cases r <;> rfl

/-- The hook of a request is what its step comes to on an open handle. -/
theorem ifOpen_hook (r : Request) (h : Handle σ) :
    h.ifOpen (r.hook h.hooks) = h.perform r.step := by
  obtain ⟨hooks, _ | _⟩ := h <;> cases r <;> rfl

end Request

namespace Clipboard

/-- **A transfer is a use of a handle**, of the one that the clipboard hands out. -/
theorem start_transfer_eq_run (p : Clipboard σ) (r : Request) (s : σ) :
    (p.transfer r).start s =
      match p.acquire.start s with
      | (.error f, t) => (.error f.asInit, t)
      | (.ok h, t) => ((r.usage.run ⟨h, t⟩).1, (r.usage.run ⟨h, t⟩).2.state) := by
  rw [transfer_eq, Action.start_bind, reach, Action.start_mapFailure]
  rcases p.acquire.start s with ⟨f | h, t⟩
  · rfl
  · simp only [Except.mapError]
    rw [r.ifOpen_hook, Handle.start_use, Action.start_mapFailure]
    simp only [Request.usage, Handle.Usage.run, Handle.Held.perform, r.after_step]

end Clipboard

/-- With a log the use of a handle for a request ends as it would without one. If the handle was
open, the hook of the request has run and the release hook after it; otherwise none has. -/
theorem Request.run_usage_logged {ε : Type} (entry : Use → ε) (log : List ε) (r : Request)
    (held : Handle.Held σ) :
    r.usage.run (held.logged entry log) =
      ((r.usage.run held).1, (r.usage.run held).2.logged entry
        (log ++ if held.handle.closed then [] else [entry r.use, entry .release])) := by
  have hclosed : (held.perform r.step).2.handle.closed = held.handle.closed := by
    rw [Handle.Held.perform, r.after_step]
  simp only [usage, Handle.Usage.run, Handle.Held.perform_logged, Handle.Held.leave_logged, hclosed,
    r.uses_step]
  cases held.handle.closed with
  | true => simp only [if_true, List.append_nil]
  | false => simp only [Bool.false_eq_true, if_false, List.append_assoc, List.map_cons,
      List.map_nil, List.cons_append, List.nil_append]

/-- What a transfer leaves in the log of a clipboard: in vain, or with a handle that had been
released, it has only asked for a handle; otherwise it has used its hook and released the handle. -/
inductive Visit (use : Use) (number : Nat) : List Entry → Prop
  | refused : Visit use number [.refused]
  | stale : Visit use number [.handed number true]
  | served : Visit use number [.handed number false, .used number use, .used number .release]

namespace Clipboard

/-- The visit that a transfer makes from a state, if the handle that it gets has this number. -/
def visit (p : Clipboard σ) (r : Request) (s : σ) (number : Nat) : List Entry :=
  match (p.acquire.start s).1 with
  | .error _ => [.refused]
  | .ok h =>
    if h.closed then [.handed number true]
    else [.handed number false, .used number r.use, .used number .release]

theorem visit_visit (p : Clipboard σ) (r : Request) (s : σ) (number : Nat) :
    Visit r.use number (p.visit r s number) := by
  rw [visit]
  rcases (p.acquire.start s).1 with f | h
  · exact .refused
  · dsimp only
    split
    · exact .stale
    · exact .served

/-- **A transfer on a clipboard with a log** ends as it would without one and leaves its visit. -/
theorem start_transfer_logged (p : Clipboard σ) (r : Request) (s : σ) (log : List Entry) :
    (p.logged.transfer r).start ⟨s, log⟩ =
      (((p.transfer r).start s).1,
        ⟨((p.transfer r).start s).2, log ++ p.visit r s (Entry.handedOut log)⟩) := by
  rw [start_transfer_eq_run, start_transfer_eq_run, logged, Action.start_ofFunction, visit]
  dsimp only
  rcases p.acquire.start s with ⟨f | h, t⟩
  · rfl
  · dsimp only
    have hrun := r.run_usage_logged (.used (Entry.handedOut log))
      (log ++ [.handed (Entry.handedOut log) h.closed]) ⟨h, t⟩
    dsimp only [Handle.Held.logged] at hrun
    rw [hrun, List.append_assoc]
    cases h.closed <;> rfl

/-! ### How a transfer ends -/

/-- What a hook ends with and what that comes to in a transfer: tags stay, and a failure without
one gets that of the operation and keeps its text. -/
inductive Tagged (op : Operation) : Except Failure Value → Except Failure Value → Prop
  | handedOver (v : Value) : Tagged op (.ok v) (.ok v)
  | init (details : Text) : Tagged op (.error (.init details)) (.error (.init details))
  | operation (op' : Operation) (details : Text) :
    Tagged op (.error (.operation op' details)) (.error (.operation op' details))
  | other {f : Failure} (hinit : ∀ details, f ≠ .init details)
    (hoperation : ∀ op' details, f ≠ .operation op' details) :
    Tagged op (.error f) (.error (.operation op f.message))

/-- How a transfer ends, read off what the clipboard and the hooks of its handle do: which of them
run and in which order, the outcome and the state that they leave. -/
inductive Ends (p : Clipboard σ) (r : Request) (s : σ) :
    List Use → Except Failure Value → σ → Prop
  /-- No handle can be had, and the failure says so. -/
  | unreached {details : Text} {t : σ}
      (hacquire : p.acquire.start s = (.error (.init details), t)) :
    Ends p r s [.acquire] (.error (.init details)) t
  /-- No handle can be had for some other reason. -/
  | refused {f : Failure} {t : σ} (hacquire : p.acquire.start s = (.error f, t))
    (hf : ∀ details, f ≠ .init details) : Ends p r s [.acquire] (.error (.init f.message)) t
  /-- The handle has been released before. -/
  | stale {h : Handle σ} {t : σ} (hacquire : p.acquire.start s = (.ok h, t))
    (hclosed : h.closed = true) :
    Ends p r s [.acquire]
      (.error (.operation r.operation "Clipboard handle has already been released")) t
  /-- The hook of the request runs, and the handle is released. -/
  | served {h : Handle σ} {result outcome : Except Failure Value} {t u v : σ}
    (hacquire : p.acquire.start s = (.ok h, t)) (hopen : h.closed = false)
    (hhook : (r.hook h.hooks).start t = (result, u)) (htagged : Tagged r.operation result outcome)
    (hrelease : h.hooks.release.start u = (.ok (), v)) :
    Ends p r s [.acquire, r.use, .release] outcome v
  /-- The hook of the request runs, and the handle fails to be released. -/
  | unreleased {h : Handle σ} {result : Except Failure Value} {f : Failure} {t u v : σ}
    (hacquire : p.acquire.start s = (.ok h, t)) (hopen : h.closed = false)
    (hhook : (r.hook h.hooks).start t = (result, u))
    (hrelease : h.hooks.release.start u = (.error f, v)) :
    Ends p r s [.acquire, r.use, .release] (.error f) v

/-- Every result of a hook comes to something. -/
theorem tagged_mapError (op : Operation) (result : Except Failure Value) :
    Tagged op result (result.mapError (.asOperation op)) := by
  rcases result with f | v
  · cases f with
    | init details => exact .init details
    | operation op' details => exact .operation op' details
    | _ => exact .other nofun nofun
  · exact .handedOver v

theorem Tagged.eq_mapError {op : Operation} {result outcome : Except Failure Value}
    (h : Tagged op result outcome) : outcome = result.mapError (.asOperation op) := by
  cases h with
  | handedOver v => rfl
  | init details => rfl
  | operation op' details => rfl
  | @other f hinit hoperation =>
    have hf : f.isTagged = false := by
      cases f with
      | init details => exact absurd rfl (hinit details)
      | operation op' details => exact absurd rfl (hoperation op' details)
      | _ => rfl
    simp only [Except.mapError, Failure.asOperation, hf, Bool.false_eq_true, if_false]

variable {p : Clipboard σ} {r : Request} {s t : σ} {uses : List Use}
  {outcome : Except Failure Value}

theorem Ends.start_transfer (h : p.Ends r s uses outcome t) :
    (p.transfer r).start s = (outcome, t) := by
  rw [Clipboard.start_transfer, course]
  cases h with
  | unreached hacquire =>
    rw [hacquire]
    rfl
  | @refused f _ hacquire hf =>
    rw [hacquire]
    simp only [Course.outcome, Course.state, Failure.asInit_eq_init]
  | stale hacquire hclosed =>
    rw [hacquire]
    simp only [hclosed, if_true]
    rfl
  | served hacquire hopen hhook htagged hrelease =>
    rw [hacquire]
    simp only [hopen, Bool.false_eq_true, if_false, hhook, hrelease, Course.outcome, Course.state,
      htagged.eq_mapError]
  | unreleased hacquire hopen hhook hrelease =>
    rw [hacquire]
    simp only [hopen, Bool.false_eq_true, if_false, hhook, hrelease, Course.outcome, Course.state]

theorem exists_ends (p : Clipboard σ) (r : Request) (s : σ) :
    ∃ uses outcome t, p.Ends r s uses outcome t := by
  rcases hacquire : p.acquire.start s with ⟨f | h, t⟩
  · cases f with
    | init details => exact ⟨_, _, _, .unreached hacquire⟩
    | _ => exact ⟨_, _, _, .refused hacquire nofun⟩
  · cases hclosed : h.closed with
    | true => exact ⟨_, _, _, .stale hacquire hclosed⟩
    | false =>
      rcases hhook : (r.hook h.hooks).start t with ⟨result, u⟩
      rcases hrelease : h.hooks.release.start u with ⟨f | _, v⟩
      · exact ⟨_, _, _, .unreleased hacquire hclosed hhook hrelease⟩
      · exact ⟨_, _, _, .served hacquire hclosed hhook (tagged_mapError _ _) hrelease⟩

theorem Ends.uses_eq (h : p.Ends r s uses outcome t) (number : Nat) :
    (p.visit r s number).map Entry.use = uses := by
  rw [visit]
  cases h with
  | unreached hacquire => rw [hacquire]; rfl
  | refused hacquire _ => rw [hacquire]; rfl
  | stale hacquire hclosed =>
    rw [hacquire]
    simp only [hclosed, if_true]
    rfl
  | served hacquire hopen | unreleased hacquire hopen =>
    rw [hacquire]
    simp only [hopen, Bool.false_eq_true, if_false]
    rfl

/-- What is no text is not copied. -/
theorem copy_of_ne_text (p : Clipboard σ) {v : Value} (hv : ∀ t, v ≠ .text t) :
    p.copy v = throw (.notText v.kindName) := by
  cases v with
  | text t => exact absurd rfl (hv t)
  | _ => rfl

/-- **How a transfer ends**, for every clipboard, request and state: exactly as the clipboard and
the hooks say, and with a log of the clipboard these are the hooks that have run. Where no handle
can be had, any two transfers fail alike, also on different clipboards. What is no text is refused
before anything is done. -/
theorem transfer_ends (p : Clipboard σ) (r : Request) (s : σ) :
    (∀ outcome t, (p.transfer r).start s = (outcome, t) ↔ ∃ uses, p.Ends r s uses outcome t) ∧
      (∀ uses outcome t, p.Ends r s uses outcome t → ∀ log, ∃ visit,
        visit.map Entry.use = uses ∧
          (p.logged.transfer r).start ⟨s, log⟩ = (outcome, ⟨t, log ++ visit⟩)) ∧
      (∀ {τ : Type} (q : Clipboard τ) (r' : Request) (s' : τ) (f : Failure),
        (p.acquire.start s).1 = .error f → (q.acquire.start s').1 = .error f →
          ((q.transfer r').start s').1 = ((p.transfer r).start s).1) ∧
      (∀ v, (∀ t, v ≠ .text t) → (p.copy v).start s = (.error (.notText v.kindName), s) ∧
        ∀ log, (p.logged.copy v).start ⟨s, log⟩ = (.error (.notText v.kindName), ⟨s, log⟩)) := by
  refine ⟨fun outcome t => ⟨fun hstart => ?_, fun ⟨uses, h⟩ => h.start_transfer⟩,
    fun uses outcome t h log => ⟨_, h.uses_eq (Entry.handedOut log), ?_⟩,
    fun q r' s' f hp hq => ?_, fun v hv => ?_⟩
  · obtain ⟨uses, outcome', t', h⟩ := p.exists_ends r s
    rw [h.start_transfer] at hstart
    cases hstart
    exact ⟨uses, h⟩
  · rw [start_transfer_logged, h.start_transfer]
  · -- neither the request nor the state has a part in the failure
    have hfails : ∀ {ρ : Type} (c : Clipboard ρ) (r : Request) (x : ρ),
        (c.acquire.start x).1 = .error f → ((c.transfer r).start x).1 = .error f.asInit := by
      intro ρ c r x h
      rw [start_transfer_eq_run]
      rcases hx : c.acquire.start x with ⟨g | handle, y⟩
      · rw [hx] at h
        cases h
        rfl
      · rw [hx] at h
        cases h
    rw [hfails p r s hp, hfails q r' s' hq]
  · rw [copy_of_ne_text p hv, copy_of_ne_text p.logged hv]
    exact ⟨rfl, fun _ => rfl⟩

end Clipboard

/-! ### Series of transfers -/

/-- An attempt at a transfer; what is to be copied may be no text. -/
inductive Attempt
  | copy (v : Value)
  | read

namespace Attempt

/-- The request of an attempt, if what is to be copied is text. -/
def request? : Attempt → Option Request
  | copy (.text t) => some (.copy t)
  | copy _ => none
  | read => some .read

/-- Makes an attempt on a clipboard. -/
def perform (p : Clipboard σ) : Attempt → Action σ Value
  | copy v => do p.copy v; pure .null
  | read => p.read

/-- An attempt with a request is its transfer. -/
theorem perform_of_request {a : Attempt} {r : Request} (h : a.request? = some r)
    (p : Clipboard σ) : a.perform p = p.transfer r := by
  cases a with
  | copy v =>
    cases v with
    | text t => cases h; rfl
    | _ => cases h
  | read => cases h; rfl

/-- An attempt without one fails, and nothing is done to any clipboard. -/
theorem start_perform_of_none {a : Attempt} (h : a.request? = none) :
    ∃ kind, ∀ {σ : Type} (p : Clipboard σ) (s : σ),
      (a.perform p).start s = (.error (.notText kind), s) := by
  cases a with
  | copy v =>
    have hv : ∀ t, v ≠ .text t := by
      rintro t rfl
      cases h
    refine ⟨v.kindName, fun p s => ?_⟩
    rw [perform, p.copy_of_ne_text hv]
    rfl
  | read => cases h

end Attempt

/-- Makes attempts one after the other, however each of them ends. -/
def Clipboard.attempts (p : Clipboard σ) : List Attempt → σ → List (Except Failure Value) × σ
  | [], s => ([], s)
  | a :: rest, s =>
    let ended := (a.perform p).start s
    let others := p.attempts rest ended.2
    (ended.1 :: others.1, others.2)

namespace Entry

/-- A log of handles that are used one after the other. -/
structure Orderly (log : List Entry) : Prop where
  /-- Numbers are given out in order. -/
  filter_eq_nil : ∀ number, handedOut log ≤ number → log.filter (isAbout number) = []
  /-- In the end no handle is live. -/
  live_eq_nil : live log = []
  /-- At no time is there more than one live handle. -/
  length_live_le : ∀ part, part <+: log → (live part).length ≤ 1
  /-- A handle was released when it was handed out, or one hook was used and then it was released.
  -/
  history : ∀ number, number < handedOut log →
    log.filter (isAbout number) = [.handed number true] ∨ ∃ use, (use = .set ∨ use = .get) ∧
      log.filter (isAbout number) =
        [.handed number false, .used number use, .used number .release]

theorem orderly_nil : Orderly [] where
  filter_eq_nil _ _ := rfl
  live_eq_nil := rfl
  length_live_le part h := by
    rw [List.prefix_nil.1 h]
    exact Nat.zero_le 1
  history _ h := absurd h (Nat.not_lt_zero _)

variable {log visit : List Entry} {use : Use} {number : Nat}

/-- A visit is about the handle with its number alone. -/
theorem filter_visit_of_ne (h : Visit use number visit) {n : Nat} (hn : n ≠ number) :
    visit.filter (isAbout n) = [] := by
  have hnumber : (number == n) = false := beq_false_of_ne hn.symm
  cases h <;> simp [isAbout, hnumber]

/-- A visit in which no handle was handed out is about none, and one in which a handle was handed
out is all about it. -/
theorem filter_visit (h : Visit use number visit) :
    (handedOut visit = 0 ∧ visit.filter (isAbout number) = []) ∨
      (handedOut visit = 1 ∧ (visit.filter (isAbout number) = [.handed number true] ∨
        visit.filter (isAbout number) =
          [.handed number false, .used number use, .used number .release])) := by
  cases h with
  | refused => exact .inl ⟨rfl, rfl⟩
  | stale => exact .inr ⟨rfl, .inl (by simp [isAbout])⟩
  | served => exact .inr ⟨rfl, .inr (by simp [isAbout])⟩

/-- During a visit at most its own handle is live, and after it none. -/
theorem live_visit (hu : use = .set ∨ use = .get) (h : Visit use number visit) :
    live visit = [] ∧ ∀ part, part <+: visit → (live part).length ≤ 1 := by
  have hserves : liveAfter [number] (.used number use) = [number] := by
    rcases hu with rfl | rfl <;> rfl
  have hreleases : liveAfter [number] (.used number .release) = [] := by simp [liveAfter]
  cases h with
  | refused | stale =>
    refine ⟨rfl, fun part hpart => ?_⟩
    rcases List.prefix_cons_iff.1 hpart with rfl | ⟨q, rfl, hq⟩
    · exact Nat.zero_le 1
    · rw [List.prefix_nil.1 hq]
      exact Nat.zero_le 1
  | served =>
    have hlive : live [.handed number false, .used number use] = [number] := hserves
    have hend : live [.handed number false, .used number use, .used number .release] = [] :=
      (congrArg (liveAfter · _) hlive).trans hreleases
    refine ⟨hend, fun part hpart => ?_⟩
    simp only [List.prefix_cons_iff, List.prefix_nil] at hpart
    rcases hpart with rfl | ⟨_, rfl, rfl | ⟨_, rfl, rfl | ⟨_, rfl, rfl⟩⟩⟩
    · exact Nat.zero_le 1
    · exact Nat.le_refl 1
    · exact Nat.le_of_eq (congrArg List.length hlive)
    · exact Nat.le_trans (Nat.le_of_eq (congrArg List.length hend)) (Nat.zero_le 1)

/-- What is live after more entries, where none was before. -/
theorem live_append (h : live log = []) (more : List Entry) : live (log ++ more) = live more := by
  rw [live, List.foldl_append]
  exact congrArg (List.foldl liveAfter · more) h

/-- **One visit more.** A visit with the next number keeps a log orderly. -/
theorem Orderly.append (h : Orderly log) (hu : use = .set ∨ use = .get)
    (hvisit : Visit use (handedOut log) visit) : Orderly (log ++ visit) := by
  obtain ⟨hlive, hparts⟩ := live_visit hu hvisit
  have hcount : handedOut (log ++ visit) = handedOut log + handedOut visit := List.countP_append
  have hnext := h.filter_eq_nil _ (Nat.le_refl (handedOut log))
  refine ⟨fun n hn => ?_, (live_append h.live_eq_nil visit).trans hlive, fun part hpart => ?_,
    fun n hn => ?_⟩
  · rw [hcount] at hn
    rw [List.filter_append, h.filter_eq_nil n (Nat.le_of_add_right_le hn), List.nil_append]
    rcases filter_visit hvisit with ⟨-, hnone⟩ | ⟨hone, -⟩
    · by_cases hn : n = handedOut log
      · rw [hn, hnone]
      · exact filter_visit_of_ne hvisit hn
    · exact filter_visit_of_ne hvisit (by omega)
  · obtain hp | ⟨q, rfl⟩ :=
      List.prefix_or_prefix_of_prefix hpart (List.prefix_append log visit)
    · exact h.length_live_le part hp
    · rw [live_append h.live_eq_nil]
      exact hparts q ((List.prefix_append_right_inj log).1 hpart)
  · rw [List.filter_append]
    by_cases hn' : n = handedOut log
    · -- the handle of this visit
      subst hn'
      rw [hnext, List.nil_append]
      rcases filter_visit hvisit with ⟨hzero, -⟩ | ⟨-, hstale | hserved⟩
      · omega
      · exact .inl hstale
      · exact .inr ⟨use, hu, hserved⟩
    · rw [filter_visit_of_ne hvisit hn', List.append_nil]
      rcases filter_visit hvisit with ⟨hzero, -⟩ | ⟨hone, -⟩ <;> exact h.history n (by omega)

end Entry

/-! ### One handle for each transfer -/

/-- What a request uses of a handle is a hook that serves it. -/
theorem Request.use_cases (r : Request) : r.use = .set ∨ r.use = .get := by
  cases r with
  | copy t => exact .inl rfl
  | read => exact .inr rfl

namespace Clipboard

/-- **One attempt** on a clipboard with an orderly log leaves an orderly log, and goes the same way
without one. -/
theorem start_perform_logged (p : Clipboard σ) (a : Attempt) (s : σ) {log : List Entry}
    (h : Entry.Orderly log) :
    ∃ log', Entry.Orderly log' ∧ (a.perform p.logged).start ⟨s, log⟩ =
      (((a.perform p).start s).1, ⟨((a.perform p).start s).2, log'⟩) := by
  cases hr : a.request? with
  | none =>
    obtain ⟨kind, hnone⟩ := Attempt.start_perform_of_none hr
    exact ⟨log, h, by rw [hnone, hnone]⟩
  | some r =>
    rw [Attempt.perform_of_request hr, Attempt.perform_of_request hr, start_transfer_logged]
    exact ⟨_, h.append r.use_cases (p.visit_visit r s _), rfl⟩

/-- **A series of attempts** leaves an orderly log, and goes the same way without one; by induction
on the attempts. -/
theorem attempts_logged (p : Clipboard σ) (attempts : List Attempt) (s : σ) {log : List Entry}
    (h : Entry.Orderly log) :
    ∃ log', Entry.Orderly log' ∧ p.logged.attempts attempts ⟨s, log⟩ =
      ((p.attempts attempts s).1, ⟨(p.attempts attempts s).2, log'⟩) := by
  induction attempts generalizing s log with
  | nil => exact ⟨log, h, rfl⟩
  | cons a rest ih =>
    obtain ⟨middle, hmiddle, hstart⟩ := p.start_perform_logged a s h
    obtain ⟨log', hlog', hrest⟩ := ih ((a.perform p).start s).2 hmiddle
    refine ⟨log', hlog', ?_⟩
    simp only [attempts]
    rw [hstart, hrest]

/-- **One handle for each transfer, and none is left open.** Attempts are made one after the other
on a clipboard that does anything, and a log is kept of the handles; without the log they go the
same way. At no time is there more than one live handle, and there is none between the attempts.
Each handle was either handed out released, and then no hook of it was used, or one hook for getting
or setting was used, once, and then the release hook, once. The next attempt asks for a handle
exactly once and gives it the next number, uses the hook for its own request, and leaves the handle
released; with what is no text it does nothing. -/
theorem one_handle_each (p : Clipboard σ) (s : σ) (before : List Attempt)
    {ended : List (Except Failure Value)} {reached : Logged Entry σ}
    (hrun : p.logged.attempts before ⟨s, []⟩ = (ended, reached)) :
    p.attempts before s = (ended, reached.state) ∧
      (Entry.live reached.log = [] ∧
        ∀ part, part <+: reached.log → (Entry.live part).length ≤ 1) ∧
      (∀ number, number < Entry.handedOut reached.log →
        reached.log.filter (Entry.isAbout number) = [.handed number true] ∨
          ∃ use, (use = .set ∨ use = .get) ∧ reached.log.filter (Entry.isAbout number) =
            [.handed number false, .used number use, .used number .release]) ∧
      ∀ next : Attempt,
        (next.request? = none → ((next.perform p.logged).start reached).2 = reached) ∧
        ∀ r, next.request? = some r →
          (∃ visit, Visit r.use (Entry.handedOut reached.log) visit ∧
            ((next.perform p.logged).start reached).2.log = reached.log ++ visit) ∧
          reached.log.filter (Entry.isAbout (Entry.handedOut reached.log)) = [] ∧
          ∀ h after, p.logged.acquire.start reached = (.ok h, after) →
            let left := r.usage.run ⟨h, after⟩
            (next.perform p.logged).start reached = (left.1, left.2.state) ∧
              left.2.handle.closed = true := by
  obtain ⟨log, horderly, hlogged⟩ := p.attempts_logged before s Entry.orderly_nil
  rw [hrun] at hlogged
  cases hlogged
  refine ⟨rfl, ⟨horderly.live_eq_nil, horderly.length_live_le⟩, horderly.history,
    fun next => ⟨fun hnone => ?_, fun r hr => ?_⟩⟩
  · obtain ⟨kind, hstart⟩ := Attempt.start_perform_of_none hnone
    rw [hstart]
  · rw [Attempt.perform_of_request hr]
    refine ⟨⟨_, p.visit_visit r _ _, by rw [start_transfer_logged]⟩,
      horderly.filter_eq_nil _ (Nat.le_refl _), fun h after hacquire =>
        ⟨?_, Handle.Held.closed_leave _ _⟩⟩
    rw [start_transfer_eq_run, hacquire]

/-- The first handle cannot be had, the second one is released already, and the third one can
neither be used for copying nor be released; in between a number is to be copied. -/
theorem one_handle_each_of_failing_hooks :
    let hooks : Hooks Nat :=
      ⟨pure (.text "v"), fun _ => throw (.timeout []), throw (.clipboard "boom")⟩
    let p : Clipboard Nat := { acquire := .ofFunction fun n =>
      (if n = 0 then .error (.timeout []) else .ok ⟨hooks, decide (n = 1)⟩, n + 1) }
    let before : List Attempt := [.read, .copy (.int 5), .copy (.text "x"), .copy (.text "x")]
    let log : List Entry :=
      [.refused, .handed 0 true, .handed 1 false, .used 1 .set, .used 1 .release]
    let ended : List (Except Failure Value) := [.error (.init []), .error (.notText "int"),
      .error (.operation .copy "Clipboard handle has already been released"),
      .error (.clipboard "boom")]
    p.logged.attempts before ⟨0, []⟩ = (ended, ⟨3, log⟩) ∧
      p.attempts before 0 = (ended, 3) ∧ Entry.live log = [] ∧
      ∃ visit, Visit .get 2 visit ∧
        ((Attempt.read.perform p.logged).start ⟨3, log⟩).2.log = log ++ visit := by
  intro hooks p before log ended
  have hrun : p.logged.attempts before ⟨0, []⟩ = (ended, ⟨3, log⟩) := rfl
  obtain ⟨hplain, ⟨hlive, -⟩, -, hnext⟩ := p.one_handle_each 0 before hrun
  exact ⟨hrun, hplain, hlive, ((hnext .read).2 .read rfl).1⟩

end Clipboard

end Pasteboard
