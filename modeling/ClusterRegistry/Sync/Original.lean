import ClusterRegistry.Lib.Split
import ClusterRegistry.Sync.Copy

/-!
# The original kind of a copy

`pkg/util/resources.go`: a copy whose kind was changed notes the kind of its
source in an annotation, as `Kind.group/version`. The reader cuts at the first
dot and then at the first slash, so a group may contain dots and a version
anything; it is right about every kind that has no dot in `Kind` and no slash
in `Group`, and it accepts no other text than what the writer makes of its
result.
-/

namespace ClusterRegistry.Sync

open Lib

def parseGVKFromString (str : String) : Option GVK :=
  match splitText '.' 2 str with
  | [kind, rest] =>
    match splitText '/' 2 rest with
    | [group, version] => some ⟨group, version, kind⟩
    | _ => none
  | _ => none

theorem toList_gvkToString (g : GVK) : (gvkToString g).toList =
    g.kind.toList ++ '.' :: (g.group.toList ++ '/' :: g.version.toList) := by
  simp [gvkToString]

/-- **What the reader accepts**: the text of a kind whose separators are the first ones. -/
theorem parseGVKFromString_eq_some {s : String} {g : GVK} :
    parseGVKFromString s = some g ↔
      gvkToString g = s ∧ '.' ∉ g.kind.toList ∧ '/' ∉ g.group.toList := by
  unfold parseGVKFromString
  constructor
  · intro h
    split at h
    · next kind rest hs =>
      obtain ⟨hs, hdot⟩ := splitText_eq_pair.mp hs
      split at h
      · next group version hr =>
        obtain ⟨hr, hslash⟩ := splitText_eq_pair.mp hr
        cases h
        refine ⟨String.toList_inj.mp ?_, hdot, hslash⟩
        rw [toList_gvkToString, hs, hr]
      · cases h
    · cases h
  · rintro ⟨rfl, hdot, hslash⟩
    have hs : splitText '.' 2 (gvkToString g) = [g.kind, g.group ++ "/" ++ g.version] :=
      splitText_eq_pair.mpr ⟨by simp [toList_gvkToString], hdot⟩
    have hr : splitText '/' 2 (g.group ++ "/" ++ g.version) = [g.group, g.version] :=
      splitText_eq_pair.mpr ⟨by simp, hslash⟩
    simp only [hs, hr]

/-- **Kinds survive as text**, and every text that is read is the text of what it is
read as. -/
theorem gvk_round_trip :
    (∀ g : GVK, '.' ∉ g.kind.toList → '/' ∉ g.group.toList →
      parseGVKFromString (gvkToString g) = some g) ∧
    ∀ (s : String) (g : GVK), parseGVKFromString s = some g → gvkToString g = s :=
  ⟨fun _ hdot hslash => parseGVKFromString_eq_some.mpr ⟨rfl, hdot, hslash⟩,
    fun _ _ h => (parseGVKFromString_eq_some.mp h).1⟩

example : parseGVKFromString "Gateway.networking.istio.io/v1beta1" =
    some ⟨"networking.istio.io", "v1beta1", "Gateway"⟩ := by decide

/-- **The source of a copy can be told from its annotation**, where a rule has set the
kind and there are no overrides, exactly if the kind of the source survives as text. -/
theorem original_gvk_recovered_iff {x : External} {env : Env} {r : SyncReconciler} {current d : Obj}
    {matched : MatchedRules} (h : ∀ rule ∈ matched, elems rule.mutations.overrides = [])
    (hset : ∃ rule ∈ matched, rule.mutations.getGVK.empty = false)
    (hd : mutated x env r current matched = .ok d) :
    (d.annotations.lookup originalGVKAnnotation).bind parseGVKFromString = some current.gvk ↔
      '.' ∉ current.gvk.kind.toList ∧ '/' ∉ current.gvk.group.toList := by
  rw [mutated_eq h] at hd
  cases hd
  have hkeys : originalGVKAnnotation ∉ managedAnnotations := by decide
  rw [annotations_mutateMeta, if_neg hkeys, if_pos ⟨rfl, hset⟩, Option.bind_some,
    parseGVKFromString_eq_some, and_iff_right rfl]

end ClusterRegistry.Sync
