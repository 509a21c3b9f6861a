import Mathlib.Data.Set.Pairwise.Lattice
import Mathlib.Order.ConditionallyCompleteLattice.Basic
import Mathlib.Data.Int.ConditionallyCompleteOrder
import Mathlib.Order.CompletePartialOrder
import MailSearch.Proofs.Request.Environment
import MailSearch.Proofs.Request.Refusal

/-!
# Pages

The results of a search are shown in pages. A request asks for the places of one page among the results,
its window, and with settings from the environment the windows are what a reader expects of pages
(`Draft.build_of_environment`): whatever the environment holds, the pages of a search are of one positive
size, and page after page they go through the results without a gap and without an overlap.

A request for one page tells the request for any other (`Draft.build_atPage`), since the page enters
nothing but the offset. That the windows make up the results then comes down to this: a place is in the
window of the page that its quotient by the page size points to (`mem_window_atPage_iff`).
-/

namespace MailSearch

open Logged

namespace Request

/-! ### Windows -/

/-- The places among the results that a request asks for, counted from zero. -/
def window (request : Request) : Set Int :=
  Set.Ico request.offset (request.offset + request.limit)

/-- The request for another page of the same results. -/
def atPage (request : Request) (page : Int) : Request :=
  { request with page, offset := (page - 1) * request.limit }

variable {request : Request}

/-- The page that a place is on. -/
theorem mem_window_atPage_iff (hlimit : 1 ≤ request.limit) {page place : Int} :
    place ∈ (request.atPage page).window ↔ place / request.limit + 1 = page := by
  have hpos : 0 < request.limit := by omega
  have hquotient := Int.ediv_eq_iff_of_pos (x := place) (y := page - 1) hpos
  have hpage : place / request.limit + 1 = page ↔ place / request.limit = page - 1 := by omega
  rw [hpage, hquotient]
  rfl

/-- A page ends where the next one starts. -/
theorem offset_atPage_succ (page : Int) :
    (request.atPage page).offset + request.limit = (request.atPage (page + 1)).offset := by
  show (page - 1) * request.limit + request.limit = (page + 1 - 1) * request.limit
  rw [Int.add_sub_cancel, Int.sub_mul, Int.one_mul, Int.sub_add_cancel]

/-- A place is on one page only. -/
theorem pairwiseDisjoint_window (hlimit : 1 ≤ request.limit) (pages : Set Int) :
    pages.PairwiseDisjoint fun page => (request.atPage page).window := by
  intro page _ other _ hne
  refine Set.disjoint_left.2 fun place hplace hother => hne ?_
  rw [mem_window_atPage_iff hlimit] at hplace hother
  exact hplace.symm.trans hother

/-- The first pages are the first places. -/
theorem iUnion_window (hlimit : 1 ≤ request.limit) (n : Int) :
    ⋃ page ∈ Set.Icc 1 n, (request.atPage page).window = Set.Ico 0 (n * request.limit) := by
  have hpos : 0 < request.limit := by omega
  ext place
  -- the page of a place is among the first ones exactly if the place is among the first places
  have hfirst : 1 ≤ place / request.limit + 1 ↔ 0 ≤ place := by
    have hzero := Int.le_ediv_iff_mul_le (a := 0) (b := place) hpos
    omega
  have hlast : place / request.limit + 1 ≤ n ↔ place < n * request.limit := by
    have hn := Int.ediv_lt_iff_lt_mul (a := place) (b := n) hpos
    omega
  calc place ∈ ⋃ page ∈ Set.Icc 1 n, (request.atPage page).window
      ↔ ∃ page ∈ Set.Icc 1 n, place / request.limit + 1 = page := by
        simp only [Set.mem_iUnion, mem_window_atPage_iff hlimit, exists_prop]
    _ ↔ place / request.limit + 1 ∈ Set.Icc 1 n := by simp only [exists_eq_right']
    _ ↔ place ∈ Set.Ico 0 (n * request.limit) := and_congr hfirst hlast

/-! ### Requests for pages -/

/-- The page enters nothing of a request but its number and the offset. -/
theorem Draft.build_atPage {settings : Settings} {draft : Draft} {request : Request}
    (h : (draft.build settings).run.value = .ok request) {page : Int} (hpage : 1 ≤ page) :
    ({ draft with page }.build settings).run.value = .ok (request.atPage page) := by
  obtain ⟨-, limit, strategy, clauses, hlimit, hstrategy, hclauses, rfl⟩ :=
    Draft.build_eq_ok_iff.1 h
  exact Draft.build_eq_ok_iff.2
    ⟨hpage, limit, strategy, clauses, hlimit, hstrategy, hclauses, rfl⟩

theorem Draft.limit_of_build {settings : Settings} {draft : Draft} {request : Request}
    (h : (draft.build settings).run.value = .ok request)
    (hlimit : 1 ≤ draft.limit.getD settings.defaultLimit) :
    request.limit = min (draft.limit.getD settings.defaultLimit) settings.maxLimit := by
  obtain ⟨-, limit, -, -, hsize, -, -, rfl⟩ := Draft.build_eq_ok_iff.1 h
  rw [value_pageSize hlimit] at hsize
  exact (Except.ok.inj hsize).symm

/-- A draft that names a strategy and has no criterion of a wrong type. -/
structure Draft.IsTyped (draft : Draft) : Prop where
  strategy : ∃ strategy : MatchingStrategy, draft.strategy = strategy.name
  criteria : ∀ entry ∈ draft.criteria.values, entry.1.accepts entry.2 = true

/-- Only the page and its size can be wrong with such a draft. -/
theorem Draft.IsTyped.faults_eq_nil_iff {settings : Settings} {draft : Draft} (h : draft.IsTyped) :
    draft.faults settings = [] ↔
      1 ≤ draft.page ∧ 1 ≤ draft.limit.getD settings.defaultLimit := by
  have hstrategy : draft.strategy ∈ ["last", "all", "frequency"] := by
    obtain ⟨strategy, hname⟩ := h.strategy
    rw [hname]
    cases strategy <;> decide
  have hcriteria : wrongTypes draft.criteria.values = [] := by
    rw [wrongTypes, List.map_eq_nil_iff, List.filter_eq_nil_iff]
    intro entry hentry
    simp [h.criteria entry hentry]
  simp only [Draft.faults, if_pos hstrategy, hcriteria, List.append_eq_nil_iff, List.map_nil,
    and_true, ite_eq_right_iff, List.cons_ne_nil, imp_false, Int.not_lt]

theorem Draft.IsTyped.exists_build_iff {settings : Settings} {draft : Draft} (h : draft.IsTyped) :
    (∃ request, (draft.build settings).run.value = .ok request) ↔
      1 ≤ draft.page ∧ 1 ≤ draft.limit.getD settings.defaultLimit := by
  rw [← refusal?_eq_none_iff, refusal?_build, List.head?_eq_none_iff, h.faults_eq_nil_iff]

end Request

/-! ### Settings from the environment -/

namespace Settings

/-- Whatever the environment holds, the sizes of pages are positive, and the nesting allowed is in the
range that a parser takes without lowering it. -/
structure IsSound (settings : Settings) : Prop where
  defaultLimit : 1 ≤ settings.defaultLimit
  maxLimit : 1 ≤ settings.maxLimit
  maxDepth : 1 ≤ settings.maxDepth
  maxDepth_le : settings.maxDepth ≤ 100

theorem isSound_read (environment : Environment) : (Settings.read environment).value.IsSound where
  defaultLimit := Setting.one_le_value_read environment .defaultLimit
  maxLimit := Setting.one_le_value_read environment .maxLimit
  maxDepth := Setting.one_le_value_read environment .maxDepth
  maxDepth_le := Setting.value_read_le_of_ceiling? environment .maxDepth 100 rfl

end Settings

/-- A limit that is not beyond the ceiling is taken as it is. -/
theorem Query.Parser.start_of_le {maxDepth : Int} (h : maxDepth ≤ maxDepthCeiling) :
    start maxDepth = { limit := maxDepth } :=
  if_neg (Int.not_lt.2 h)

namespace Request

variable {settings : Settings} {draft : Draft}

/-- With sound settings the page size is positive unless a limit is given that is not. -/
theorem Draft.one_le_limit_iff (hsound : settings.IsSound) :
    1 ≤ draft.limit.getD settings.defaultLimit ↔
      ¬ ∃ limit, draft.limit = some limit ∧ limit < 1 := by
  cases draft.limit with
  | none => simpa using hsound.defaultLimit
  | some limit => simp

theorem Draft.IsTyped.exists_error_iff (htyped : draft.IsTyped) (hsound : settings.IsSound) :
    (∃ error, (draft.build settings).run.value = .error error) ↔
      draft.page < 1 ∨ ∃ limit, draft.limit = some limit ∧ limit < 1 := by
  have herror : (∃ error, (draft.build settings).run.value = .error error) ↔
      ¬ ∃ request, (draft.build settings).run.value = .ok request := by
    cases (draft.build settings).run.value <;> simp
  rw [herror, htyped.exists_build_iff, Draft.one_le_limit_iff hsound, not_and_or, Int.not_le,
    not_not]

/-- The request for the first page tells the requests for all of them. -/
theorem Draft.IsTyped.exists_build_atPage (htyped : draft.IsTyped)
    (hlimit : 1 ≤ draft.limit.getD settings.defaultLimit) :
    ∃ request : Request,
      request.limit = min (draft.limit.getD settings.defaultLimit) settings.maxLimit ∧
      ∀ n, 1 ≤ n → ({ draft with page := n }.build settings).run.value = .ok (request.atPage n) := by
  have hfirst : Draft.IsTyped { draft with page := 1 } := ⟨htyped.strategy, htyped.criteria⟩
  obtain ⟨request, hrequest⟩ := hfirst.exists_build_iff.2 ⟨Int.le_refl 1, hlimit⟩
  have hsize := Draft.limit_of_build hrequest hlimit
  exact ⟨request, hsize, fun n hn => Draft.build_atPage hrequest hn⟩

/-- **Paging is sound in every environment.** The settings are positive, and no parser lowers the
nesting that they allow. A draft whose strategy and criteria are right is refused exactly if its page or
the limit given in it is not positive. Otherwise there is a request for every page. All pages have one
size, the limit given or the default but no more than the largest one. Each page starts where the one
before it ends, no place is on two pages, and the first `n` pages are the first places of the results,
`n` times the size of a page. -/
theorem Draft.build_of_environment (environment : Environment) :
    let settings := (Settings.read environment).value
    (1 ≤ settings.defaultLimit ∧ 1 ≤ settings.maxLimit ∧
      1 ≤ settings.maxDepth ∧ settings.maxDepth ≤ 100 ∧
      Query.Parser.start settings.maxDepth = { limit := settings.maxDepth }) ∧
    ∀ draft : Draft, draft.IsTyped →
      ((∃ error, (draft.build settings).run.value = .error error) ↔
        draft.page < 1 ∨ ∃ limit, draft.limit = some limit ∧ limit < 1) ∧
      ((∀ limit, draft.limit = some limit → 1 ≤ limit) →
        let size := min (draft.limit.getD settings.defaultLimit) settings.maxLimit
        1 ≤ size ∧ ∃ pages : Int → Request,
          (∀ n, 1 ≤ n →
            ({ draft with page := n }.build settings).run.value = .ok (pages n) ∧
            (pages n).limit = size ∧ (pages n).offset + size = (pages (n + 1)).offset) ∧
          ((Set.Ici 1).PairwiseDisjoint fun n => (pages n).window) ∧
          ∀ n, ⋃ page ∈ Set.Icc 1 n, (pages page).window = Set.Ico 0 (n * size)) := by
  intro settings
  have hsound : settings.IsSound := Settings.isSound_read environment
  refine ⟨⟨hsound.defaultLimit, hsound.maxLimit, hsound.maxDepth, hsound.maxDepth_le,
    Query.Parser.start_of_le hsound.maxDepth_le⟩, fun draft htyped => ⟨?_, fun hgiven => ?_⟩⟩
  · exact htyped.exists_error_iff hsound
  · intro size
    have hlimit : 1 ≤ draft.limit.getD settings.defaultLimit := by
      refine (Draft.one_le_limit_iff hsound).2 ?_
      rintro ⟨limit, hlimit, hless⟩
      exact absurd (hgiven limit hlimit) (Int.not_le.2 hless)
    have hsize : 1 ≤ size := Int.le_min.2 ⟨hlimit, hsound.maxLimit⟩
    obtain ⟨request, hrequestSize, hbuild⟩ := htyped.exists_build_atPage hlimit
    change request.limit = size at hrequestSize
    rw [← hrequestSize] at hsize ⊢
    refine ⟨hsize, request.atPage, fun n hn => ⟨?_, rfl, ?_⟩, ?_, ?_⟩
    · exact hbuild n hn
    · exact offset_atPage_succ n
    · exact pairwiseDisjoint_window hsize (Set.Ici 1)
    · exact iUnion_window hsize

/-- A default limit in the digits of another script and beyond the largest limit, and a nesting beyond
what a parser takes. -/
theorem Draft.build_of_environment_capped :
    let environment : Environment := fun
      | .defaultLimit => some " ٥٠ "
      | .maxLimit => some "2_0"
      | .maxDepth => some "1000"
    let settings : Settings := { defaultLimit := 50, maxLimit := 20, maxDepth := 100 }
    let draft : Draft := { query := "from:a) NOT", page := 3, accessFilter := some "ownerId = 7" }
    (Settings.read environment).value = settings ∧ draft.IsTyped ∧
      ∃ pages : Int → Request,
        (∀ n, 1 ≤ n →
          ({ draft with page := n }.build settings).run.value = .ok (pages n) ∧
          (pages n).limit = 20 ∧ (pages n).offset + 20 = (pages (n + 1)).offset) ∧
        ((Set.Ici 1).PairwiseDisjoint fun n => (pages n).window) ∧
        ∀ n, ⋃ page ∈ Set.Icc 1 n, (pages page).window = Set.Ico 0 (n * 20) := by
  intro environment settings draft
  have hsettings : (Settings.read environment).value = settings := by decide +kernel
  have htyped : draft.IsTyped := ⟨⟨.last, rfl⟩, by decide⟩
  obtain ⟨-, hpages⟩ := Draft.build_of_environment environment
  obtain ⟨-, pages⟩ := (hpages draft htyped).2 nofun
  rw [hsettings] at pages
  exact ⟨hsettings, htyped, pages⟩

end Request

end MailSearch
