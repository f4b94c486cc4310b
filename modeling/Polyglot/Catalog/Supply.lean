import Polyglot.Catalog.Basic

/-!
# Supplies of handlers

A supply hands out the handlers of versions and may keep a memory, so that the same version of the
same language need not get the same handler twice.

- `Supply`: what handlers are asked of.
- `Supply.ofFunction`: a supply without memory.
- `Supply.memory`, `Supply.answer`: what requests leave behind, and what is handed out then.
-/

namespace Polyglot

universe u v

/-- What hands out a handler for a version of a language; `σ` is its memory. -/
structure Supply (σ : Type v) (η : Type u) where
  ask : LanguageEntry → VersionEntry → σ → η × σ

variable {σ : Type v} {η : Type u}

namespace Supply

/-- A supply without memory. -/
def ofFunction (handlerFor : LanguageEntry → VersionEntry → η) : Supply σ η :=
  ⟨fun e v s => (handlerFor e v, s)⟩

/-- The memory behind some requests. -/
def memory (supply : Supply σ η) (s : σ) (asked : List (LanguageEntry × VersionEntry)) : σ :=
  asked.foldl (fun s q => (supply.ask q.1 q.2 s).2) s

/-- The handler that is handed out for a version behind some requests. -/
def answer (supply : Supply σ η) (s : σ) (asked : List (LanguageEntry × VersionEntry))
    (e : LanguageEntry) (v : VersionEntry) : η :=
  (supply.ask e v (supply.memory s asked)).1

@[simp] theorem ask_ofFunction (handlerFor : LanguageEntry → VersionEntry → η)
    (e : LanguageEntry) (v : VersionEntry) (s : σ) :
    (ofFunction handlerFor).ask e v s = (handlerFor e v, s) := rfl

@[simp] theorem memory_nil (supply : Supply σ η) (s : σ) : supply.memory s [] = s := rfl

@[simp] theorem memory_cons (supply : Supply σ η) (s : σ) (e : LanguageEntry) (v : VersionEntry)
    (asked : List (LanguageEntry × VersionEntry)) :
    supply.memory s ((e, v) :: asked) = supply.memory (supply.ask e v s).2 asked := rfl

theorem memory_append (supply : Supply σ η) (s : σ)
    (asked later : List (LanguageEntry × VersionEntry)) :
    supply.memory s (asked ++ later) = supply.memory (supply.memory s asked) later :=
  List.foldl_append

end Supply

end Polyglot
