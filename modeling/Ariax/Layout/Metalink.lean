import Ariax.Layout.Path
import Mathlib.Data.Char
import Mathlib.Data.List.Lex
import Mathlib.Order.Lattice

/-!
# The output paths of a Metalink document

Every `file` element of a document registers its lowercased path. Whether a
registered path lies below the new one is only asked of the first one that
is not before it in byte order. A path that continues the new one with a
character before the separator comes first, and hides those below it.
-/

namespace Ariax

open List Except

/-- Between a word and one that continues it, every word continues it. -/
theorem exists_append_of_between {α : Type*} [LinearOrder α] {key word rest : List α} {c : α}
    (lower : key ≤ word) (upper : word ≤ key ++ c :: rest) :
    ∃ tail, word = key ++ tail ∧ ∀ d ∈ tail.head?, d ≤ c := by
  rw [← not_lt] at lower upper
  induction key generalizing word with
  | nil =>
    refine ⟨word, rfl, ?_⟩
    cases word with
    | nil => simp
    | cons d word =>
      simp only [nil_append, cons_lt_cons_iff, not_or, not_lt] at upper
      simpa using upper.1
  | cons a key ih =>
    cases word with
    | nil => simp at lower
    | cons b word =>
      simp only [cons_append, cons_lt_cons_iff, not_or, not_lt, not_and] at lower upper
      obtain rfl : a = b := le_antisymm lower.1 upper.1
      obtain ⟨tail, rfl, head⟩ := ih (not_lt.mpr (lower.2 rfl)) (not_lt.mpr (upper.2 rfl))
      exact ⟨tail, rfl, head⟩

/-- The options that the registration of a file reads. -/
structure MetalinkOptions where
  maxFiles : ℕ
  metadataBytes : ℕ

inductive MetalinkError
  | limit | unsafePath | pathCollision

/-- What the parser keeps about the files: their number, the bytes charged, and their paths. -/
structure MetalinkParser where
  count : ℕ
  retained : ℕ
  paths : List (List Char)

/-- What the elements of a document ask for: a file by its `name`, or bytes for other data. -/
inductive MetalinkEvent
  | file (name : Option (List Char))
  | charge (bytes : ℕ)

section

variable (unicode : Unicode)

def metalinkName (name : Option (List Char)) : Except MetalinkError SafeRelativePath := do
  let text ← okOr name .unsafePath
  (unicode.fromMetadataComponents .windows (text.splitOn '/')).mapError fun _ => .unsafePath

def metalinkKey (name : SafeRelativePath) : List Char :=
  unicode.toLowercase name.canonicalString

end

namespace MetalinkParser

variable (unicode : Unicode) (options : MetalinkOptions) (parser : MetalinkParser)

/-- A path is registered, lies above the first one from it on, or below one. -/
def collides (key : List Char) : Bool :=
  parser.paths.contains key ||
    (parser.paths.filter (key ≤ ·)).min?.any (key ++ ['/']).isPrefixOf ||
    (range key.length).any fun i => key[i]? = some '/' && parser.paths.contains (key.take i)

def charge (bytes : ℕ) : Except MetalinkError MetalinkParser := do
  rejectIf (options.metadataBytes < parser.retained + bytes) .limit
  return { parser with retained := parser.retained + bytes }

def step : MetalinkEvent → Except MetalinkError MetalinkParser
  | .charge bytes => parser.charge options bytes
  | .file name => do
    rejectIf (options.maxFiles < parser.count + 1) .limit
    let name ← metalinkName unicode name
    let key := metalinkKey unicode name
    rejectIf (parser.collides key) .pathCollision
    let parser ← parser.charge options (name.encodedLen * 3 + 512)
    return { parser with count := parser.count + 1, paths := parser.paths ++ [key] }

/-- The files of a document that was read to its end. -/
def parse (events : List MetalinkEvent) : Except MetalinkError MetalinkParser :=
  events.foldlM (step unicode options) ⟨0, 0, []⟩

end MetalinkParser

/-- Two paths can both be created: they differ, and neither is a directory of the other. -/
def PathsApart (path other : List Char) : Prop :=
  path ≠ other ∧ ¬path ++ ['/'] <+: other ∧ ¬other ++ ['/'] <+: path

namespace MetalinkParser

variable {unicode : Unicode} {options : MetalinkOptions} {parser next : MetalinkParser}
  {key : List Char}

/-- Of a path with registered paths below it, no registered path is a continuation with a
character before the separator. -/
def Careful (unicode : Unicode) (parser : MetalinkParser) : MetalinkEvent → Prop
  | .charge _ => True
  | .file name => ∀ path, metalinkName unicode name = .ok path →
    (∃ other ∈ parser.paths, metalinkKey unicode path ++ ['/'] <+: other) →
      ∀ c rest, metalinkKey unicode path ++ c :: rest ∈ parser.paths → '/' ≤ c

/-- Every element is careful in the state in which it is read. -/
def CarefulRun (unicode : Unicode) (options : MetalinkOptions) :
    MetalinkParser → List MetalinkEvent → Prop
  | _, [] => True
  | parser, event :: rest => parser.Careful unicode event ∧
    ∀ next, parser.step unicode options event = .ok next → CarefulRun unicode options next rest

section

variable {other : List Char} (member : other ∈ parser.paths)
include member

/-- A path below which there is one is refused, if none comes between. -/
theorem collides_of_above (below : key ++ ['/'] <+: other)
    (careful : ∀ c rest, key ++ c :: rest ∈ parser.paths → '/' ≤ c) :
    parser.collides key = true := by
  obtain ⟨rest, rfl⟩ := below
  rw [append_assoc, singleton_append] at member
  have after : key ≤ key ++ '/' :: rest := not_lt.mp List.le_append_left
  have candidate : key ++ '/' :: rest ∈ parser.paths.filter (key ≤ ·) :=
    mem_filter.mpr ⟨member, decide_eq_true after⟩
  obtain ⟨first, least⟩ := Option.isSome_iff_exists.mp (isSome_min?_of_mem candidate)
  obtain ⟨listed, lowest⟩ := min?_eq_some_iff.mp least
  obtain ⟨registered, start⟩ := mem_filter.mp listed
  obtain ⟨tail, rfl, head⟩ := exists_append_of_between (of_decide_eq_true start)
    (lowest _ candidate)
  cases tail with
  | nil => simp [collides, (by simpa using registered : key ∈ parser.paths)]
  | cons c tail =>
    obtain rfl : c = '/' := le_antisymm (head c rfl) (careful c tail registered)
    simp [collides, least]

theorem collides_of_below (below : other ++ ['/'] <+: key) : parser.collides key = true := by
  obtain ⟨rest, rfl⟩ := below
  have hit : (range (other ++ ['/'] ++ rest).length).any (fun i =>
      (other ++ ['/'] ++ rest)[i]? = some '/' &&
        parser.paths.contains ((other ++ ['/'] ++ rest).take i)) = true :=
    any_eq_true.mpr ⟨other.length, by simp, by simp [member]⟩
  simp only [collides, hit, Bool.or_true]

end

/-- A file is registered next to the others exactly when it is careful. -/
theorem apart_step {event : MetalinkEvent} (accepted : parser.step unicode options event = .ok next)
    :
    parser.paths <+: next.paths ∧ (parser.paths.Pairwise PathsApart →
      (next.paths.Pairwise PathsApart ↔ parser.Careful unicode event)) := by
  cases event with
  | charge bytes =>
    simp only [step, charge, bind_eq_ok, rejectIf_eq_ok, pure_eq, ok.injEq] at accepted
    obtain ⟨-, -, rfl⟩ := accepted
    exact ⟨prefix_rfl, fun apart => iff_of_true apart trivial⟩
  | file name =>
    simp only [step, charge, bind_eq_ok, rejectIf_eq_ok, pure_eq, ok.injEq] at accepted
    obtain ⟨-, -, path, named, -, free, _, ⟨-, -, rfl⟩, rfl⟩ := accepted
    refine ⟨prefix_append _ _, fun apart => ?_⟩
    simp only [pairwise_append, apart, pairwise_singleton, true_and, mem_singleton, forall_eq]
    constructor
    · rintro each _ named' ⟨other, member, below⟩
      obtain rfl := Except.ok.inj (named.symm.trans named')
      exact ((each other member).2.2 below).elim
    · intro careful other member
      refine ⟨?_, fun below => free (collides_of_below member below), fun below => ?_⟩
      · rintro rfl
        exact free (by simp [collides, member])
      · exact free (collides_of_above member below (careful path named ⟨other, member, below⟩))

theorem apart_run {events : List MetalinkEvent}
    (accepted : events.foldlM (step unicode options) parser = .ok next) :
    parser.paths <+: next.paths ∧ (parser.paths.Pairwise PathsApart →
      (next.paths.Pairwise PathsApart ↔ CarefulRun unicode options parser events)) := by
  induction events generalizing parser with
  | nil =>
    cases accepted
    exact ⟨prefix_rfl, fun apart => iff_of_true apart trivial⟩
  | cons event rest ih =>
    rw [foldlM_cons] at accepted
    obtain ⟨middle, first, accepted⟩ := bind_eq_ok.mp accepted
    obtain ⟨grows, step⟩ := apart_step first
    obtain ⟨grown, run⟩ := ih accepted
    refine ⟨grows.trans grown, fun apart => ?_⟩
    have only next (same : parser.step unicode options event = .ok next) : next = middle :=
      Except.ok.inj (same.symm.trans first)
    constructor
    · intro whole
      have between := whole.sublist grown.sublist
      exact ⟨(step apart).mp between, fun next same => only next same ▸ (run between).mp whole⟩
    · rintro ⟨careful, later⟩
      exact (run ((step apart).mpr careful)).mpr (later middle first)

/-- In every document that is accepted, the paths of all files can be created together exactly
when every file was careful. -/
theorem metalink_creatable_iff {events : List MetalinkEvent}
    (accepted : parse unicode options events = .ok parser) :
    parser.paths.Pairwise PathsApart ↔ CarefulRun unicode options ⟨0, 0, []⟩ events :=
  (apart_run accepted).2 .nil

end MetalinkParser

namespace MetalinkSample

def options : MetalinkOptions := ⟨3, 4096⟩

def files (names : List String) : List MetalinkEvent := names.map fun name => .file name.toList

end MetalinkSample

open MetalinkSample MetalinkParser

theorem metalink_creatable_nested : CarefulRun .ascii options ⟨0, 0, []⟩ (files ["a", "b/x"]) := by
  have accepted : parse .ascii options (files ["a", "b/x"]) =
      .ok ⟨2, 1036, ["a".toList, "b/x".toList]⟩ := rfl
  refine (metalink_creatable_iff accepted).mp ?_
  unfold PathsApart
  decide +kernel

/-- A file next to a directory of the same name, behind a path that sorts between the two. -/
theorem metalink_hides_directory :
    ∃ parser, parse .ascii options (files ["a.txt", "a/x", "a"]) = .ok parser ∧
      ¬parser.paths.Pairwise PathsApart := by
  refine ⟨⟨3, 1563, ["a.txt".toList, "a/x".toList, "a".toList]⟩, rfl, ?_⟩
  unfold PathsApart
  decide +kernel

end Ariax
