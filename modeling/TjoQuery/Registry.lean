import TjoQuery.Builder
import Mathlib.Data.List.AList
import Mathlib.Data.List.Dedup

namespace TjoQuery

/-! `ModuleRegistry` of `model.go`: the modules by name, and the names in the order they
were registered in.  Every method holds the registry's mutex for its whole body, so the
calls of any number of goroutines take effect one at a time: a run of the registry is a
sequence of calls.  A module is any value with a `Name()`, read once per `Register`; the
registry reads nothing else of it.  `r.modules` is Go's map, a finite map from names. -/

structure ModuleRegistry (M : Type) where
  modules : AList fun _ : String => M
  order : List String

def NewModuleRegistry {M : Type} : ModuleRegistry M := ⟨∅, []⟩

/-- Each name once, where it first occurs: Mathlib's `dedup` keeps last occurrences, so it
is taken on the reversed list. -/
def firstOccurrences (names : List String) : List String := names.reverse.dedup.reverse

theorem firstOccurrences_of_nodup {names : List String} (h : names.Nodup) :
    firstOccurrences names = names := by
  simp [firstOccurrences, List.Nodup.dedup (List.nodup_reverse.mpr h)]

theorem firstOccurrences_append_cons_of_mem {names rest : List String} {name : String}
    (h : name ∈ names) :
    firstOccurrences (names ++ name :: rest) = firstOccurrences (names ++ rest) := by
  simp only [firstOccurrences, List.reverse_append, List.reverse_cons, List.append_assoc,
    List.singleton_append, List.dedup_append, List.dedup_cons_of_mem (List.mem_reverse.mpr h)]

namespace ModuleRegistry

variable {M : Type}

section Methods

variable (Name : M → String)

/-- `Register`: a name already in `modules` is refused and nothing is written; any other
is added to `modules` and appended to `order`. -/
def Register (r : ModuleRegistry M) (m : M) : ModuleRegistry M × Option Error :=
  if Name m ∈ r.modules then (r, some (.quoted "module %q already registered" (Name m)))
  else (⟨r.modules.insert (Name m) m, r.order ++ [Name m]⟩, none)

def registerAll (r : ModuleRegistry M) (ms : List M) : ModuleRegistry M :=
  ms.foldl (fun r m => (r.Register Name m).1) r

end Methods

def Get (r : ModuleRegistry M) (name : String) : Option M := r.modules.lookup name

def Has (r : ModuleRegistry M) (name : String) : Bool := decide (name ∈ r.modules)

def Names (r : ModuleRegistry M) : List String := r.order

/-- `Count`: `len(r.modules)`, the number of entries of the map. -/
def Count (r : ModuleRegistry M) : Nat := r.modules.entries.length

/-- What every registry a program reaches satisfies: each name once in `order`, and
`order` names exactly the keys of `modules`. -/
structure Valid (r : ModuleRegistry M) : Prop where
  nodup : r.order.Nodup
  mem_iff : ∀ name, name ∈ r.order ↔ name ∈ r.modules

theorem NewModuleRegistry_valid : (NewModuleRegistry : ModuleRegistry M).Valid where
  nodup := List.nodup_nil
  mem_iff name := by simp [NewModuleRegistry, AList.not_mem_empty]

variable {Name : M → String}

theorem Valid.register {r : ModuleRegistry M} (h : r.Valid) (m : M) :
    (r.Register Name m).1.Valid := by
  unfold Register
  split
  · exact h
  next hfresh =>
    refine ⟨?_, fun name => ?_⟩
    · exact h.nodup.append (List.nodup_singleton _)
        (List.disjoint_singleton.mpr fun hmem => hfresh ((h.mem_iff _).mp hmem))
    · simp [AList.mem_insert, h.mem_iff, or_comm]

theorem Valid.registerAll {r : ModuleRegistry M} (h : r.Valid) (ms : List M) :
    (r.registerAll Name ms).Valid := by
  induction ms generalizing r with
  | nil => exact h
  | cons m ms ih => exact ih (h.register m)

theorem Valid.registerAll_order {r : ModuleRegistry M} (h : r.Valid) (ms : List M) :
    (r.registerAll Name ms).order = firstOccurrences (r.order ++ ms.map Name) := by
  induction ms generalizing r with
  | nil =>
      simp only [ModuleRegistry.registerAll, List.foldl_nil, List.map_nil, List.append_nil]
      exact (firstOccurrences_of_nodup h.nodup).symm
  | cons m ms ih =>
      rw [ModuleRegistry.registerAll, List.foldl_cons, ← ModuleRegistry.registerAll,
        ih (h.register m), List.map_cons]
      unfold Register
      split
      next hmem => exact (firstOccurrences_append_cons_of_mem ((h.mem_iff _).mpr hmem)).symm
      next => simp

theorem Valid.count_eq {r : ModuleRegistry M} (h : r.Valid) : r.Count = r.Names.length := by
  have hperm : r.order.Perm r.modules.keys :=
    (List.perm_ext_iff_of_nodup h.nodup r.modules.keys_nodup).mpr fun name =>
      (h.mem_iff name).trans AList.mem_keys
  rw [Count, Names, hperm.length_eq, AList.keys, List.keys, List.length_map]

/-- Every sequence of `Register` calls on a new registry leaves a valid registry whose
`order` lists each name at the first call that carried it; on any valid registry, a
`Register` of a name `Names()` lists is refused and changes nothing, one of any other
name appends exactly that name, `Names()` is `order` and `Count()` its length. -/
theorem registry_invariant (ms : List M) :
    (NewModuleRegistry.registerAll Name ms).Valid ∧
      (NewModuleRegistry.registerAll Name ms).order = firstOccurrences (ms.map Name) ∧
      ∀ r : ModuleRegistry M, r.Valid → ∀ m : M,
        (Name m ∈ r.Names →
          r.Register Name m = (r, some (.quoted "module %q already registered" (Name m)))) ∧
        (Name m ∉ r.Names →
          r.Register Name m = (⟨r.modules.insert (Name m) m, r.order ++ [Name m]⟩, none)) ∧
        r.Names = r.order ∧ r.Count = r.Names.length := by
  refine ⟨NewModuleRegistry_valid.registerAll ms, ?_, fun r hvalid m => ⟨fun hmem => ?_,
    fun hfresh => ?_, rfl, hvalid.count_eq⟩⟩
  · simpa [NewModuleRegistry] using @Valid.registerAll_order M Name _ NewModuleRegistry_valid ms
  · rw [Register, if_pos ((hvalid.mem_iff _).mp hmem)]
  · rw [Register, if_neg fun hmem => hfresh ((hvalid.mem_iff _).mpr hmem)]

theorem Get_registerAll (r : ModuleRegistry M) (ms : List M) (name : String) :
    (r.registerAll Name ms).Get name = (r.Get name <|> ms.find? fun m => Name m = name) := by
  induction ms generalizing r with
  | nil => cases h : r.Get name <;> simp [ModuleRegistry.registerAll, h]
  | cons m ms ih =>
      rw [ModuleRegistry.registerAll, List.foldl_cons, ← ModuleRegistry.registerAll, ih,
        List.find?_cons]
      unfold Register Get
      by_cases hname : Name m = name
      · subst hname
        split
        next hmem =>
          obtain ⟨_, hget⟩ := Option.isSome_iff_exists.mp (AList.lookup_isSome.mpr hmem)
          simp [hget]
        next hfresh => simp [AList.lookup_insert, AList.lookup_eq_none.mpr hfresh]
      · split <;> simp [hname, AList.lookup_insert_ne (Ne.symm hname)]

/-- On a new registry, `Get` returns the first module registered under the name. -/
theorem NewModuleRegistry_Get (ms : List M) (name : String) :
    (NewModuleRegistry.registerAll Name ms).Get name = ms.find? fun m => Name m = name := by
  rw [Get_registerAll]
  rfl

end ModuleRegistry

end TjoQuery
