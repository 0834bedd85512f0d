import BlockOrder.Config.Format
import BlockOrder.Proofs.Data.Json

/-!
# Configurations read back

What is written of a configuration is read as that configuration.  Readers and writers of parts
fit together: where they do for the items of a list, the values of a map or the fields of a
record, they do for the whole.
-/

namespace BlockOrder

namespace SortedMap

variable {α : Type}

theorem insertEntry_of_lt {l : List (String × α)} {key : String} (h : ∀ e ∈ l, e.1 < key)
    (value : α) : insertEntry key value l = l ++ [(key, value)] := by
  induction l with
  | nil => rfl
  | cons e l ih =>
      have hlt : e.1 < key := h e List.mem_cons_self
      have hne : key ≠ e.1 := fun heq => String.lt_irrefl key (heq ▸ hlt)
      rw [insertEntry, if_neg (String.lt_asymm hlt), if_neg hne,
        ih fun x hx => h x (List.mem_cons_of_mem e hx), List.cons_append]

theorem entries_foldl_insert {l : List (String × α)} {m : SortedMap α}
    (h : (m.entries ++ l).Pairwise fun a b => a.1 < b.1) :
    (l.foldl (fun m e => m.insert e.1 e.2) m).entries = m.entries ++ l := by
  induction l generalizing m with
  | nil => exact (List.append_nil _).symm
  | cons e l ih =>
      have hlt : ∀ x ∈ m.entries, x.1 < e.1 := fun x hx =>
        (List.pairwise_append.mp h).2.2 x hx e List.mem_cons_self
      have hinsert : (m.insert e.1 e.2).entries = m.entries ++ [e] := insertEntry_of_lt hlt e.2
      have hstep : ((m.insert e.1 e.2).entries ++ l).Pairwise fun a b => a.1 < b.1 := by
        rwa [hinsert, List.append_assoc, List.singleton_append]
      rw [List.foldl_cons, ih hstep, hinsert, List.append_assoc, List.singleton_append]

theorem ofList_entries (m : SortedMap α) : ofList m.entries = m := by
  have hentries : (ofList m.entries).entries = m.entries :=
    entries_foldl_insert (m := empty) m.sorted
  obtain ⟨entries, sorted⟩ := m
  exact (mk.injEq _ _ _ _).mpr hentries

end SortedMap

namespace Data.Reader

variable {α : Type} {read : Reader α} {write : α → Data}

/-- The reader gives back what the writer wrote as JSON. -/
structure Undoes (read : Reader α) (write : α → Data) : Prop where
  isJson : ∀ a, (write a).IsJson
  read_write : ∀ a, read .json (write a) = some a

theorem undoes_bool : Undoes bool Data.bool where
  isJson := .bool
  read_write _ := rfl

theorem undoes_string : Undoes string Data.string where
  isJson := .string
  read_write _ := rfl

theorem undoes_char : Undoes char fun c => .string (String.singleton c) where
  isJson _ := .string _
  read_write c := by simp [char, string]

theorem undoes_word64 : Undoes word64 fun n => .int n.toNat where
  isJson _ := .int _
  read_write n := by
    have hlt : n.toNat < 0x10000000000000000 := n.toNat_lt
    simp [word64, nat, hlt]

theorem undoes_int64 : Undoes int64 fun n => .int n.toInt where
  isJson _ := .int _
  read_write n := by
    have hbounds : -0x8000000000000000 ≤ n.toInt ∧ n.toInt < 0x8000000000000000 :=
      ⟨n.le_toInt, n.toInt_lt⟩
    simp [int64, int, hbounds]

theorem undoes_int32 : Undoes int32 fun n => .int n.toInt where
  isJson _ := .int _
  read_write n := by
    have hbounds : -0x80000000 ≤ n.toInt ∧ n.toInt < 0x80000000 := ⟨n.le_toInt, n.toInt_lt⟩
    simp [int32, int, hbounds]

theorem undoes_word {toWord : α → String} {ofWord? : String → Option α}
    (h : ∀ a, ofWord? (toWord a) = some a) :
    Undoes (word ofWord?) fun a => .string (toWord a) where
  isJson _ := .string _
  read_write a := h a

theorem Undoes.optional (h : Undoes read write) (hnull : ∀ a, isNull (write a) = false) :
    Undoes (optional read) (ofOption write) where
  isJson
    | none => .null
    | some a => h.isJson a
  read_write
    | none => rfl
    | some a => by simp [Reader.optional, ofOption, hnull, h.read_write]

theorem undoes_text : Undoes (Reader.optional string) (ofOption .string) :=
  undoes_string.optional fun _ => rfl

theorem mapM_map (l : List α) {β γ : Type} {f : β → Option γ} {g : α → β} {k : α → γ}
    (h : ∀ a, f (g a) = some (k a)) : (l.map g).mapM f = some (l.map k) := by
  induction l with
  | nil => rfl
  | cons a l ih => simp [h, ih]

theorem Undoes.list (h : Undoes read write) :
    Undoes (list read) fun l => .list (l.map write) where
  isJson l := by
    apply IsJson.list
    intro d hd
    obtain ⟨a, -, rfl⟩ := List.mem_map.mp hd
    exact h.isJson a
  read_write l := by
    have hmap := mapM_map l (k := id) h.read_write
    rwa [List.map_id] at hmap

theorem Undoes.map (h : Undoes read write) :
    Undoes (Config.readMap read) (Config.mapData write) where
  isJson m := by
    apply IsJson.record
    intro e he
    obtain ⟨x, -, rfl⟩ := List.mem_map.mp he
    exact h.isJson x.2
  read_write m := by
    have hfields : fields read .json (Config.mapData write m) = some m.entries := by
      have hmap := mapM_map m.entries (k := id)
        (f := fun e : String × Data => (read .json e.2).map fun v => (e.1, v))
        (g := fun e => (e.1, write e.2)) fun e => by simp [h.read_write]
      rwa [List.map_id] at hmap
    rw [Config.readMap, hfields, Option.map_some, SortedMap.ofList_entries]

/-! ## Records -/

variable {β : Type} {d : Data} {place : Nat} {name : String} {a : α} {k : α → Option β} {b : β}

theorem Undoes.required_bind (h : Undoes read write)
    (hslot : slot? place name d = some (write a)) (hk : k a = some b) :
    (required .json d place name read).bind k = some b := by
  rwa [Reader.required, hslot, Option.bind_some, h.read_write, Option.bind_some]

theorem Undoes.fieldOr_bind (h : Undoes read write) {fallback : α}
    (hslot : slot? place name d = some (write a)) (hk : k a = some b) :
    (fieldOr fallback .json d place name read).bind k = some b := by
  simp only [Reader.fieldOr, hslot]
  rwa [h.read_write, Option.bind_some]

end Data.Reader

open Data Data.Reader

namespace Delimiters

theorem undoes : Undoes read toData where
  isJson d := by
    apply IsJson.record
    simp only [List.forall_mem_cons]
    exact ⟨.string _, undoes_text.isJson _, (undoes_char.optional fun _ => rfl).isJson _, nofun⟩
  read_write d := by
    have hform : hasFields .json fieldNames d.toData = true := rfl
    rw [read, hform, if_neg (by decide)]
    refine undoes_string.required_bind rfl ?_
    refine undoes_text.fieldOr_bind rfl ?_
    exact (undoes_char.optional fun _ => rfl).fieldOr_bind rfl rfl

end Delimiters

namespace FoldMarker

theorem undoes : Undoes read toData where
  isJson m := by
    apply IsJson.record
    simp only [List.forall_mem_cons]
    exact ⟨.string _, .string _, .int _, undoes_text.isJson _, nofun⟩
  read_write m := by
    have hform : hasFields .json fieldNames m.toData = true := rfl
    rw [read, hform, if_neg (by decide)]
    refine undoes_string.required_bind rfl ?_
    refine undoes_string.required_bind rfl ?_
    refine undoes_int32.fieldOr_bind rfl ?_
    exact undoes_text.fieldOr_bind rfl rfl

end FoldMarker

namespace LanguageMarkers

theorem undoes : Undoes read toData where
  isJson m := by
    apply IsJson.record
    simp only [List.forall_mem_cons]
    exact ⟨Delimiters.undoes.list.isJson _, Delimiters.undoes.list.isJson _,
      undoes_string.list.isJson _, nofun⟩
  read_write m := by
    have hform : hasFields .json fieldNames m.toData = true := rfl
    rw [read, hform, if_neg (by decide)]
    refine Delimiters.undoes.list.fieldOr_bind rfl ?_
    refine Delimiters.undoes.list.fieldOr_bind rfl ?_
    exact undoes_string.list.fieldOr_bind rfl rfl

end LanguageMarkers

theorem CaseFirst.undoes : Undoes (word ofWord?) fun c => .string (toWord c) :=
  undoes_word fun c => by cases c <;> rfl

theorem Sensitivity.undoes : Undoes (word ofWord?) fun s => .string (toWord s) :=
  undoes_word fun s => by cases s <;> rfl

namespace CollationOptions

theorem undoes : Undoes read toData where
  isJson o := by
    apply IsJson.record
    simp only [List.forall_mem_cons]
    exact ⟨undoes_text.isJson _, .bool _, .string _, .string _, undoes_text.isJson _,
      undoes_text.isJson _, nofun⟩
  read_write o := by
    have hform : hasFields .json fieldNames o.toData = true := rfl
    rw [read, hform, if_neg (by decide)]
    refine undoes_text.fieldOr_bind rfl ?_
    refine undoes_bool.fieldOr_bind rfl ?_
    refine CaseFirst.undoes.fieldOr_bind rfl ?_
    refine Sensitivity.undoes.fieldOr_bind rfl ?_
    refine undoes_text.fieldOr_bind rfl ?_
    exact undoes_text.fieldOr_bind rfl rfl

end CollationOptions

namespace Growth

theorem undoes : Undoes read toData where
  isJson g := by
    apply IsJson.record
    simp only [List.forall_mem_cons]
    exact ⟨.bool _, .bool _, .bool _, .bool _, nofun⟩
  read_write g := by
    have hform : hasFields .json fieldNames g.toData = true := rfl
    rw [read, hform, if_neg (by decide)]
    refine undoes_bool.fieldOr_bind rfl ?_
    refine undoes_bool.fieldOr_bind rfl ?_
    refine undoes_bool.fieldOr_bind rfl ?_
    exact undoes_bool.fieldOr_bind rfl rfl

end Growth

theorem Expansion.undoes : Undoes read toData where
  isJson
    | disabled => .bool _
    | full => .bool _
    | custom g => Growth.undoes.isJson g
  read_write
    | disabled => rfl
    | full => rfl
    | custom g => congrArg (Option.map custom) (Growth.undoes.read_write g)

namespace Config

theorem undoes : Undoes read toData where
  isJson c := by
    apply IsJson.record
    simp only [List.forall_mem_cons]
    exact ⟨.int _, undoes_string.list.isJson _, undoes_string.list.isJson _,
      (FoldMarker.undoes.optional fun _ => rfl).map.isJson _, undoes_text.isJson _,
      undoes_text.isJson _, undoes_text.isJson _, undoes_text.isJson _, .bool _, .bool _, .int _,
      .int _, Expansion.undoes.isJson _, Expansion.undoes.isJson _,
      CollationOptions.undoes.isJson _, .string _, LanguageMarkers.undoes.map.isJson _, nofun⟩
  read_write c := by
    have hform : hasFields .json fieldNames c.toData = true := rfl
    rw [read, hform, if_neg (by decide)]
    refine undoes_word64.fieldOr_bind rfl ?_
    refine undoes_string.list.fieldOr_bind rfl ?_
    refine undoes_string.list.fieldOr_bind rfl ?_
    refine (FoldMarker.undoes.optional fun _ => rfl).map.fieldOr_bind rfl ?_
    refine undoes_text.fieldOr_bind rfl ?_
    refine undoes_text.fieldOr_bind rfl ?_
    refine undoes_text.fieldOr_bind rfl ?_
    refine undoes_text.fieldOr_bind rfl ?_
    refine undoes_bool.fieldOr_bind rfl ?_
    refine undoes_bool.fieldOr_bind rfl ?_
    refine undoes_int64.fieldOr_bind rfl ?_
    refine undoes_word64.fieldOr_bind rfl ?_
    refine Expansion.undoes.fieldOr_bind rfl ?_
    refine Expansion.undoes.fieldOr_bind rfl ?_
    refine CollationOptions.undoes.fieldOr_bind rfl ?_
    refine undoes_string.fieldOr_bind rfl ?_
    exact LanguageMarkers.undoes.map.fieldOr_bind rfl rfl

def toJson (c : Config) : Text := (Json.render c.toData).toList

def ofJson? (t : Text) : Option Config := (Json.parse? t).bind (read .json)

theorem ofJson?_toJson (c : Config) : ofJson? c.toJson = some c := by
  have hparse : Json.parse? c.toJson = some c.toData := Json.parse?_render (undoes.isJson c)
  rw [ofJson?, hparse, Option.bind_some, undoes.read_write]

/-- Every configuration is read back from its JSON, and what is written of a configuration that
was read from any data stays as it is when it is read and written again. -/
theorem json_round_trip :
    (∀ c : Config, read .json c.toData = some c ∧ ofJson? c.toJson = some c) ∧
      ∀ (d : Data) (c : Config), read .json d = some c →
        ofJson? c.toJson = some c ∧ (ofJson? c.toJson).map toData = some c.toData := by
  constructor
  · intro c
    exact ⟨undoes.read_write c, ofJson?_toJson c⟩
  · intro d c _
    constructor
    · exact ofJson?_toJson c
    · rw [ofJson?_toJson, Option.map_some]

/-- Data that leaves out most fields, has one that is not known, takes out one default pair of
brackets and gives records as lists and words as records. -/
def sparseSettings : Data := .record [
  ("tabSize", .int 2),
  ("theme", .string "dark"),
  ("foldingMarkers", .record [
    ("<>", .null),
    ("do", .record [("start", .string "do"), ("end", .string "od")])]),
  ("expandCursor", .record [("expandLocally", .bool true)]),
  ("expandSelection", .list [.bool false, .bool true]),
  ("collatorOptions", .record [("caseFirst", .record [("upper", .null)])]),
  ("languages", .record [
    ("toml", .record [("comments", .list [.record [("start", .string "#")]])])])]

def sparseConfig : Config where
  tabSize := 2
  foldMarkers := .ofList [("<>", none), ("do", some { start := "do", stop := "od" })]
  expandCursor := .custom { locally := true }
  expandSelection := .custom { overEmptyLines := true }
  collation := { caseFirst := .upper }
  languages := .ofList [("toml", { comments := [.toLineEnd "#"] })]

theorem json_round_trip_sparse :
    read .json sparseSettings = some sparseConfig ∧
      ofJson? sparseConfig.toJson = some sparseConfig ∧
      (ofJson? sparseConfig.toJson).map toData = some sparseConfig.toData :=
  have h : read .json sparseSettings = some sparseConfig := by rfl
  ⟨h, json_round_trip.2 _ _ h⟩

end Config

end BlockOrder
