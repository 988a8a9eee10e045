import TjoQuery.Registry

namespace TjoQuery

/-! `InitializeAll` and `ShutdownAll` of `ModuleRegistry`.  A module's `Initialize` and
`Shutdown` are the caller's code: the loops send them to a port that answers each call
with an error or `nil`, from the calls made before it, so a module may fail on one call
and not on another.  Each loop holds the registry's read lock for its whole body, so it
runs on one state of the registry. -/

/-- A call of the lifecycle loops: `m.Initialize(g)` or `m.Shutdown(ctx)`. -/
inductive Lifecycle (M : Type)
  | Initialize (m : M)
  | Shutdown (m : M)
  deriving DecidableEq

inductive LifecycleError (E : Type)
  /-- `fmt.Errorf("module %q initialization failed: %w", name, err)` -/
  | initialization (name : String) (err : E)
  /-- `fmt.Errorf("module %q shutdown failed: %w", name, err)` -/
  | shutdown (name : String) (err : E)
  /-- `fmt.Errorf("%s", errMsg)` -/
  | text (msg : String)
  deriving DecidableEq

variable {M E : Type}

def Lifecycle.module : Lifecycle M → M
  | Initialize m | Shutdown m => m

/-- `err.Error()`, with the `%q` of a name written by `quote` and a module's error by
`msg`. -/
def LifecycleError.message (quote : String → String) (msg : E → String) :
    LifecycleError E → String
  | initialization name err => "module " ++ quote name ++ " initialization failed: " ++ msg err
  | shutdown name err => "module " ++ quote name ++ " shutdown failed: " ++ msg err
  | text s => s

/-- The calls of `calls`, made one after another after `trace`, that the port answers with
an error, each with its error, in order. -/
def Lifecycle.failures (answer : List (Lifecycle M) → Lifecycle M → Option E)
    (trace : List (Lifecycle M)) : List (Lifecycle M) → List (Lifecycle M × E)
  | [] => []
  | c :: calls => ((answer trace c).map (c, ·)).toList ++ failures answer (trace ++ [c]) calls

namespace Lifecycle

variable {answer : List (Lifecycle M) → Lifecycle M → Option E}

@[simp] theorem failures_nil (trace : List (Lifecycle M)) : failures answer trace [] = [] := rfl

theorem failures_cons (trace : List (Lifecycle M)) (c : Lifecycle M) (calls : List (Lifecycle M)) :
    failures answer trace (c :: calls) =
      ((answer trace c).map (c, ·)).toList ++ failures answer (trace ++ [c]) calls := rfl

theorem failures_eq_cons {trace calls : List (Lifecycle M)} {c : Lifecycle M} {err : E}
    {rest : List (Lifecycle M × E)} (h : failures answer trace calls = (c, err) :: rest) :
    ∃ pre post, calls = pre ++ c :: post ∧ failures answer trace pre = [] ∧
      answer (trace ++ pre) c = some err := by
  induction calls generalizing trace with
  | nil => cases h
  | cons c' calls ih =>
      rw [failures_cons] at h
      cases hc : answer trace c' with
      | some err' =>
          simp only [hc, Option.map_some', Option.toList_some, List.singleton_append,
            List.cons.injEq, Prod.mk.injEq] at h
          obtain ⟨⟨rfl, rfl⟩, -⟩ := h
          exact ⟨[], calls, rfl, rfl, by simpa using hc⟩
      | none =>
          simp only [hc, Option.map_none', Option.toList_none, List.nil_append] at h
          obtain ⟨pre, post, rfl, hpre, hfail⟩ := ih h
          exact ⟨c' :: pre, post, rfl, by simp [failures_cons, hc, hpre], by simpa using hfail⟩

end Lifecycle

namespace ModuleRegistry

open Lifecycle

/-! ## The loops -/

section Loops

variable (r : ModuleRegistry M) (answer : List (Lifecycle M) → Lifecycle M → Option E)

/-- The loop of `InitializeAll` over the names left.  A name with no module gives a `nil`
interface, whose `Initialize` panics. -/
def initLoop : List String → List (Lifecycle M) →
    Option (Option (LifecycleError E)) × List (Lifecycle M)
  | [], trace => (some none, trace)
  | name :: rest, trace =>
      match r.Get name with
      | none => (none, trace)
      | some m =>
          match answer trace (.Initialize m) with
          | some err => (some (some (.initialization name err)), trace ++ [.Initialize m])
          | none => initLoop rest (trace ++ [.Initialize m])

/-- `InitializeAll`, after the calls `trace`: what it returns (`none` if it panics), and
the calls made so far. -/
def InitializeAll (trace : List (Lifecycle M)) :
    Option (Option (LifecycleError E)) × List (Lifecycle M) :=
  r.initLoop answer r.order trace

/-- The loop `for i := len(r.order) - 1; i >= 0; i--` of `ShutdownAll`, with `i + 1`
rounds left at index `i`, collecting the wrapped errors in `errs`. -/
def shutdownLoop : Nat → List (LifecycleError E) → List (Lifecycle M) →
    Option (List (LifecycleError E)) × List (Lifecycle M)
  | 0, errs, trace => (some errs, trace)
  | i + 1, errs, trace =>
      match r.order[i]? with
      | none => (none, trace)
      | some name =>
          match r.Get name with
          | none => (none, trace)
          | some m =>
              shutdownLoop i
                (match answer trace (.Shutdown m) with
                  | some err => errs ++ [.shutdown name err]
                  | none => errs)
                (trace ++ [.Shutdown m])

/-- The end of `ShutdownAll`: `nil`, the one error, or one error that lists them all. -/
def combineErrors (quote : String → String) (msg : E → String) :
    List (LifecycleError E) → Option (LifecycleError E)
  | [] => none
  | [err] => some err
  | err₁ :: err₂ :: errs =>
      some (.text ((err₁ :: err₂ :: errs).foldl
        (fun errMsg err => errMsg ++ "\n  - " ++ err.message quote msg)
        "multiple shutdown errors:"))

def ShutdownAll (quote : String → String) (msg : E → String) (trace : List (Lifecycle M)) :
    Option (Option (LifecycleError E)) × List (Lifecycle M) :=
  match r.shutdownLoop answer r.order.length [] trace with
  | (some errs, trace) => (some (combineErrors quote msg errs), trace)
  | (none, trace) => (none, trace)

/-- The module registered under each name of `Names()`, in that order. -/
def inOrder : List M := r.Names.filterMap r.Get

end Loops

/-! ## Reachable registries -/

/-- The registries a program reaches: a new one, then `Register` calls. -/
inductive Reachable (Name : M → String) : ModuleRegistry M → Prop
  | new : Reachable Name NewModuleRegistry
  | register {r : ModuleRegistry M} (m : M) : Reachable Name r →
      Reachable Name (r.Register Name m).1

variable {Name : M → String} {r : ModuleRegistry M}

theorem Reachable.valid (h : r.Reachable Name) : r.Valid := by
  induction h with
  | new => exact NewModuleRegistry_valid
  | register m _ ih => exact ih.register m

theorem Reachable.get_name (h : r.Reachable Name) {name : String} {m : M}
    (hget : r.Get name = some m) : Name m = name := by
  induction h with
  | new => simp [Get, NewModuleRegistry] at hget
  | @register r m' _ ih =>
      unfold Register at hget
      split at hget
      · exact ih hget
      · by_cases hname : Name m' = name
        · subst hname
          obtain rfl : m' = m := by simpa [Get, AList.lookup_insert] using hget
          rfl
        · exact ih (by simpa [Get, AList.lookup_insert_ne (Ne.symm hname)] using hget)

theorem Reachable.names_inOrder (h : r.Reachable Name) : r.inOrder.map Name = r.Names := by
  suffices ∀ names : List String, (∀ name ∈ names, name ∈ r.modules) →
      (names.filterMap r.Get).map Name = names from
    this _ fun name => (h.valid.mem_iff name).mp
  intro names hnames
  induction names with
  | nil => rfl
  | cons name names ih =>
      simp only [List.mem_cons, forall_eq_or_imp] at hnames
      obtain ⟨m, hm⟩ : ∃ m, r.Get name = some m :=
        Option.isSome_iff_exists.mp (AList.lookup_isSome.mpr hnames.1)
      simp [hm, h.get_name hm, ih hnames.2]

theorem Reachable.get_inOrder (h : r.Reachable Name) {m : M} (hm : m ∈ r.inOrder) :
    r.Get (Name m) = some m := by
  obtain ⟨name, -, hget⟩ := List.mem_filterMap.mp hm
  rw [h.get_name hget, hget]

/-! ## The loops over the registered modules -/

section Run

variable (answer : List (Lifecycle M) → Lifecycle M → Option E)

theorem initLoop_eq {mods : List M} (hget : ∀ m ∈ mods, r.Get (Name m) = some m)
    (trace : List (Lifecycle M)) :
    (failures answer trace (mods.map .Initialize) = [] →
      r.initLoop answer (mods.map Name) trace =
        (some none, trace ++ mods.map .Initialize)) ∧
    (∀ pre m post err, mods = pre ++ m :: post →
      failures answer trace (pre.map .Initialize) = [] →
      answer (trace ++ pre.map .Initialize) (.Initialize m) = some err →
      r.initLoop answer (mods.map Name) trace =
        (some (some (.initialization (Name m) err)), trace ++ (pre ++ [m]).map .Initialize)) := by
  induction mods generalizing trace with
  | nil => exact ⟨fun _ => by simp [initLoop], fun pre _ _ _ h => by simp at h⟩
  | cons m mods ih =>
      simp only [List.mem_cons, forall_eq_or_imp] at hget
      have hstep : r.initLoop answer ((m :: mods).map Name) trace =
          match answer trace (.Initialize m) with
          | some err => (some (some (.initialization (Name m) err)), trace ++ [.Initialize m])
          | none => r.initLoop answer (mods.map Name) (trace ++ [.Initialize m]) := by
        simp [initLoop, hget.1]
      refine ⟨fun hpass => ?_, fun pre m' post err hsplit hpre hfail => ?_⟩
      · cases hm : answer trace (.Initialize m) with
        | some err => simp [failures_cons, hm] at hpass
        | none =>
            simp only [List.map_cons, failures_cons, hm, Option.map_none', Option.toList_none,
              List.nil_append] at hpass
            rw [hstep, hm, (ih hget.2 _).1 hpass]
            simp
      · cases pre with
        | nil =>
            obtain ⟨rfl, rfl⟩ := List.cons.inj hsplit
            rw [hstep, show answer trace (.Initialize m) = some err by simpa using hfail]
            simp
        | cons m'' pre =>
            obtain ⟨rfl, rfl⟩ := List.cons.inj hsplit
            have hm : answer trace (.Initialize m) = none := by
              cases hm : answer trace (.Initialize m) <;> simp [failures_cons, hm] at hpre ⊢
            simp only [List.map_cons, failures_cons, hm, Option.map_none', Option.toList_none,
              List.nil_append] at hpre
            rw [hstep, hm, (ih hget.2 _).2 pre m' post err rfl hpre (by simpa using hfail)]
            simp

theorem shutdownLoop_eq {mods : List M} (hget : ∀ m ∈ mods, r.Get (Name m) = some m)
    (horder : r.order = mods.map Name) {i : Nat} (hi : i ≤ mods.length)
    (errs : List (LifecycleError E)) (trace : List (Lifecycle M)) :
    r.shutdownLoop answer i errs trace =
      (some (errs ++ (failures answer trace ((mods.take i).reverse.map .Shutdown)).map
          fun f => .shutdown (Name f.1.module) f.2),
        trace ++ (mods.take i).reverse.map .Shutdown) := by
  induction i generalizing errs trace with
  | zero => simp [shutdownLoop]
  | succ i ih =>
      have hlt : i < mods.length := hi
      have hmem : mods[i] ∈ mods := List.getElem_mem hlt
      have htake : (mods.take (i + 1)).reverse = mods[i] :: (mods.take i).reverse := by
        rw [List.take_succ, List.getElem?_eq_getElem hlt]
        simp
      rw [shutdownLoop, horder, List.getElem?_map, List.getElem?_eq_getElem hlt]
      simp only [Option.map_some', hget _ hmem, ih (Nat.le_of_lt hlt), htake, List.map_cons,
        failures_cons]
      cases answer trace (.Shutdown mods[i]) <;> simp [module]

end Run

/-! ## The lifecycle of a reachable registry -/

theorem foldl_append_join {α : Type} (text : α → String) (sep : String) :
    ∀ (item : α) (items : List α) (init : String),
      (item :: items).foldl (fun acc item => acc ++ sep ++ text item) init =
        init ++ sep ++ Strings.join ((item :: items).map text) sep
  | _, [], _ => rfl
  | item, next :: items, init => by
      rw [List.foldl_cons, foldl_append_join text sep next items]
      simp only [List.map_cons, Strings.join, String.append_assoc]

/-- On every registry reachable by `Register`, and for every port: `InitializeAll` calls
`Initialize` on the modules in `Names()` order, up to and including the first that fails,
and returns that failure wrapped with the module's name, or `nil` when every call
succeeded; `ShutdownAll` calls `Shutdown` once on every module, in the reverse of
`Names()` order, whatever fails, and returns `nil` when every call succeeded, the one
wrapped error when one failed, and otherwise one error listing every wrapped failure in
the order the calls were made. -/
theorem lifecycle_order (h : r.Reachable Name)
    (answer : List (Lifecycle M) → Lifecycle M → Option E) (quote : String → String)
    (msg : E → String) (trace : List (Lifecycle M)) :
    r.inOrder.map Name = r.Names ∧
    ((r.InitializeAll answer trace).1 = some none ↔
      failures answer trace (r.inOrder.map .Initialize) = []) ∧
    (failures answer trace (r.inOrder.map .Initialize) = [] →
      r.InitializeAll answer trace = (some none, trace ++ r.inOrder.map .Initialize)) ∧
    (∀ pre m post err, r.inOrder = pre ++ m :: post →
      failures answer trace (pre.map .Initialize) = [] →
      answer (trace ++ pre.map .Initialize) (.Initialize m) = some err →
      r.InitializeAll answer trace =
        (some (some (.initialization (Name m) err)), trace ++ (pre ++ [m]).map .Initialize)) ∧
    (r.ShutdownAll answer quote msg trace).2 = trace ++ r.inOrder.reverse.map .Shutdown ∧
    ((r.ShutdownAll answer quote msg trace).1 = some none ↔
      failures answer trace (r.inOrder.reverse.map .Shutdown) = []) ∧
    (∀ c err, failures answer trace (r.inOrder.reverse.map .Shutdown) = [(c, err)] →
      (r.ShutdownAll answer quote msg trace).1 = some (some (.shutdown (Name c.module) err))) ∧
    (∀ f₁ f₂ fs, failures answer trace (r.inOrder.reverse.map .Shutdown) = f₁ :: f₂ :: fs →
      (r.ShutdownAll answer quote msg trace).1 = some (some (.text
        ("multiple shutdown errors:" ++ "\n  - " ++ Strings.join ((f₁ :: f₂ :: fs).map fun f =>
          "module " ++ quote (Name f.1.module) ++ " shutdown failed: " ++ msg f.2) "\n  - ")))) := by
  have hget : ∀ m ∈ r.inOrder, r.Get (Name m) = some m := fun _ => h.get_inOrder
  have horder : r.order = r.inOrder.map Name := h.names_inOrder.symm
  have hinit := initLoop_eq answer hget trace
  rw [← horder] at hinit
  have hshut : r.ShutdownAll answer quote msg trace =
      (some (combineErrors quote msg
        ((failures answer trace (r.inOrder.reverse.map .Shutdown)).map
          fun f => .shutdown (Name f.1.module) f.2)),
        trace ++ r.inOrder.reverse.map .Shutdown) := by
    have hlen : r.order.length = r.inOrder.length := by rw [horder, List.length_map]
    rw [ShutdownAll, hlen, shutdownLoop_eq answer hget horder le_rfl, List.take_length]
    rfl
  refine ⟨h.names_inOrder, ⟨fun hnil => ?_, fun hpass => by rw [InitializeAll, hinit.1 hpass]⟩,
    hinit.1, hinit.2, by rw [hshut], ?_, fun c err hone => by rw [hshut, hone]; rfl,
    fun f₁ f₂ fs hmany => ?_⟩
  · cases hfail : failures answer trace (r.inOrder.map .Initialize) with
    | nil => rfl
    | cons f rest =>
        obtain ⟨c, err⟩ := f
        obtain ⟨pre, post, hsplit, hpre, hf⟩ := failures_eq_cons hfail
        obtain ⟨pre', rest', hmods, rfl, hrest⟩ := List.map_eq_append_iff.mp hsplit
        obtain ⟨m, post', rfl, rfl, rfl⟩ := List.map_eq_cons_iff.mp hrest
        rw [InitializeAll, hinit.2 pre' m post' _ hmods hpre hf] at hnil
        cases hnil
  · rw [hshut]
    cases hf : failures answer trace (r.inOrder.reverse.map .Shutdown) with
    | nil => simp [combineErrors]
    | cons f rest => cases rest <;> simp [combineErrors]
  · simp only [hshut, hmany, List.map_cons, combineErrors]
    rw [foldl_append_join]
    simp only [List.map_cons, List.map_map]
    rfl

theorem lifecycle_order_cache_db :
    (((NewModuleRegistry : ModuleRegistry String).Register id "cache").1.Register id
        "db").1.Reachable id ∧
      ((((NewModuleRegistry : ModuleRegistry String).Register id "cache").1.Register id
        "db").1.ShutdownAll (fun _ _ => (none : Option String)) id id []).2 =
        [.Shutdown "db", .Shutdown "cache"] :=
  ⟨.register _ (.register _ .new),
    (lifecycle_order (.register _ (.register _ .new)) (fun _ _ => (none : Option String)) id id
      []).2.2.2.2.1.trans (by decide)⟩

end ModuleRegistry

end TjoQuery
