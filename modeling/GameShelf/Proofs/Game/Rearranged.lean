import GameShelf.Proofs.Game.FirstOccurrence

/-!
# The same games in another order

The records of one game form a class.  Lists are rearranged when they have the same classes, each
as often, so neither the order counts nor which record of a game is there.  Without duplicates a
list is known up to this by the games that are among it (`rearranged_of_among`), and then each game
of the one list is the same as exactly one of the other.
-/

set_option autoImplicit false

namespace GameShelf.Game

variable {a b game : Game} {games xs ys : List Game}

/-! ## Classes of records -/

/-- Being the same game, as an equivalence of records. -/
def sameSetoid : Setoid Game :=
  ⟨fun a b => a.same b = true, same_equivalence⟩

/-- A game, whichever of its records stands for it. -/
def Class : Type :=
  Quotient sameSetoid

/-- The class of a record. -/
def toClass (game : Game) : Class :=
  Quotient.mk sameSetoid game

theorem toClass_eq_iff : a.toClass = b.toClass ↔ a.same b = true :=
  ⟨fun h => Quotient.exact h, fun h => Quotient.sound (s := sameSetoid) h⟩

theorem name_of_same (h : a.same b = true) : a.name = b.name := by
  rw [(same_iff.1 h).1]

/-- The name that all records of a game have. -/
def Class.name : Class → Text :=
  Quotient.lift Game.name fun _ _ => name_of_same

theorem toClass_mem_map_iff : game.toClass ∈ games.map toClass ↔ game.among games = true := by
  rw [List.mem_map, among, List.any_eq_true]
  constructor
  · rintro ⟨other, hother, hclass⟩
    exact ⟨other, hother, toClass_eq_iff.1 hclass.symm⟩
  · rintro ⟨other, hother, hsame⟩
    exact ⟨other, hother, (toClass_eq_iff.2 hsame).symm⟩

/-- Without duplicates, no two records are of one class. -/
theorem Distinct.nodup_map_toClass (h : Distinct games) : (games.map toClass).Nodup := by
  refine List.pairwise_map.2 (List.Pairwise.imp ?_ h)
  intro a b hab hclass
  rw [toClass_eq_iff.1 hclass] at hab
  cases hab

/-- Without duplicates, a game of the list is the same as exactly one of its places. -/
theorem Distinct.filter_same (h : Distinct games) (hgame : game.among games = true) :
    ∃ other, games.filter game.same = [other] := by
  rcases List.any_eq_true.1 hgame with ⟨same, hsame⟩
  have hfound : (games.find? game.same).isSome = true := List.find?_isSome.2 ⟨same, hsame⟩
  rcases Option.isSome_iff_exists.1 hfound with ⟨other, hother⟩
  -- One record of each game is fresh, and without duplicates all records are.
  have honly := filter_same_fresh game [] games
  rw [h.fresh_nil, hother] at honly
  exact ⟨other, honly⟩

/-! ## Rearranged lists -/

/-- The lists have the same games, each as often. -/
def Rearranged (xs ys : List Game) : Prop :=
  (xs.map toClass).Perm (ys.map toClass)

theorem Rearranged.of_perm (h : xs.Perm ys) : Rearranged xs ys :=
  h.map toClass

theorem Rearranged.symm (h : Rearranged xs ys) : Rearranged ys xs :=
  List.Perm.symm h

theorem Rearranged.length_eq (h : Rearranged xs ys) : xs.length = ys.length := by
  simpa using List.Perm.length_eq h

theorem Rearranged.among_eq (h : Rearranged xs ys) (game : Game) :
    game.among xs = game.among ys := by
  rw [Bool.eq_iff_iff, ← toClass_mem_map_iff, ← toClass_mem_map_iff]
  exact List.Perm.mem_iff h

/-- In a list without duplicates, a game of the other list has exactly one place. -/
theorem Rearranged.filter_same (h : Rearranged xs ys) (hys : Distinct ys) (hgame : game ∈ xs) :
    ∃ other, ys.filter game.same = [other] :=
  hys.filter_same ((h.among_eq game).symm.trans (among_of_mem hgame))

/-- Without duplicates, it is enough that the same games are among both lists. -/
theorem rearranged_of_among (hxs : Distinct xs) (hys : Distinct ys)
    (h : ∀ game : Game, game.among xs = game.among ys) : Rearranged xs ys := by
  refine (List.perm_ext_iff_of_nodup hxs.nodup_map_toClass hys.nodup_map_toClass).2 ?_
  intro c
  obtain ⟨game, rfl⟩ : ∃ game : Game, game.toClass = c := Quotient.exists_rep c
  rw [toClass_mem_map_iff, toClass_mem_map_iff, h]

/-- Rearranged lists have the same names, each as often. -/
theorem Rearranged.map_name (h : Rearranged xs ys) :
    (xs.map (·.name)).Perm (ys.map (·.name)) := by
  have hnames : ∀ games : List Game, (games.map toClass).map Class.name = games.map (·.name) := by
    intro games
    rw [List.map_map]
    rfl
  rw [← hnames xs, ← hnames ys]
  exact List.Perm.map Class.name h

end GameShelf.Game
