import CppOptimizer.Config.Snapshot
import CppOptimizer.Lib.Upsert

/-!
# CppOptimizer.Config.GameRules

`MergeGameRules`: the rules of `config.local.toml` over those of the main configuration. A local
rule takes the place of the first rule with its id, ASCII case apart, or is added at the end.
-/

namespace CppOptimizer
namespace Config

/-- `std::tolower` of the C locale, character by character. -/
def toLower (text : String) : String := String.ofList (text.toList.map Char.toLower)

/-- The id rules are told apart by. -/
def GameConfig.foldedId (game : GameConfig) : String := toLower game.id

def mergeGameRules (mainRules localRules : List GameConfig) : List GameConfig :=
  Lib.upserts GameConfig.foldedId mainRules localRules

/-- The rule that counts for an id: the last local one, else the one of the main list. -/
def ruleFor (mainRules localRules : List GameConfig) (id : String) : Option GameConfig :=
  (localRules.reverse.find? fun game => game.foldedId = id).or
    (mainRules.find? fun game => game.foldedId = id)

/-- The ids the local list adds, in the order they first appear. -/
def newIds (mainRules localRules : List GameConfig) : List String :=
  ((localRules.map GameConfig.foldedId).filter (· ∉ mainRules.map GameConfig.foldedId)).eraseDups

/-- What a merge of rules with distinct ids returns. -/
structure MergedRules (mainRules localRules merged : List GameConfig) : Prop where
  distinct : (merged.map GameConfig.foldedId).Nodup
  lookup : ∀ id, (merged.find? fun game => game.foldedId = id) = ruleFor mainRules localRules id
  order : merged.map GameConfig.foldedId =
    mainRules.map GameConfig.foldedId ++ newIds mainRules localRules
  nothingElse : ∀ game ∈ merged, ruleFor mainRules localRules game.foldedId = some game

theorem mergeGameRules_merged (mainRules localRules : List GameConfig)
    (h : (mainRules.map GameConfig.foldedId).Nodup) :
    MergedRules mainRules localRules (mergeGameRules mainRules localRules) := by
  have hdistinct : ((mergeGameRules mainRules localRules).map GameConfig.foldedId).Nodup :=
    Lib.nodup_upserts GameConfig.foldedId h
  have hlookup : ∀ id, ((mergeGameRules mainRules localRules).find? fun game => game.foldedId = id) =
      ruleFor mainRules localRules id :=
    Lib.find?_upserts GameConfig.foldedId mainRules localRules
  refine ⟨hdistinct, hlookup, Lib.keys_upserts GameConfig.foldedId mainRules localRules, ?_⟩
  intro game hgame
  rw [← hlookup]
  exact Lib.find?_of_mem_of_nodup GameConfig.foldedId hdistinct hgame

/-- Two local spellings of one id, and a new one. -/
theorem mergeGameRules_merged_twice :
    let mainRules : List GameConfig := [{ id := "a" }, { id := "b" }]
    let localRules : List GameConfig :=
      [{ id := "B" }, { id := "c" }, { id := "b", pauseWhenBackground := false }]
    (mainRules.map GameConfig.foldedId).Nodup ∧
      MergedRules mainRules localRules (mergeGameRules mainRules localRules) := by
  intro mainRules localRules
  have hnodup : (mainRules.map GameConfig.foldedId).Nodup := by decide
  exact ⟨hnodup, mergeGameRules_merged mainRules localRules hnodup⟩

end Config
end CppOptimizer
