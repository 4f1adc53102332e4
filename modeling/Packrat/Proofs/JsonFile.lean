import Packrat.File.Reader
import Packrat.Proofs.JsonValue

/-! Grammar files that were written as JSON read as themselves. A field that was left out comes back
as what it is when it is missing, and only then. -/
namespace Packrat

section Lists

theorem mapM_eq_some {f : α → Option β} {g : α → β} {items : List α} (each : ∀ a ∈ items, f a = some (g a)) :
    items.mapM f = some (items.map g) := by
  induction items with
  | nil => rfl
  | cons a rest ih =>
    rw [List.mapM_cons,each a List.mem_cons_self,ih fun a member => each a (List.mem_cons_of_mem _ member)]
    rfl

theorem lookup_map (fields : List (String × α)) (f : α → β) (name : String) :
    (fields.map fun p => (p.1,f p.2)).lookup name = (fields.lookup name).map f := by
  induction fields with
  | nil => rfl
  | cons p rest ih =>
    rw [List.map_cons,List.lookup_cons,List.lookup_cons,ih]
    cases name == p.1 <;> rfl

/-- A field that stands there if there is something to say. -/
theorem lookup_optional (d : Option α) (name key : String) (f : α → β) :
    (d.toList.map fun a => (name,f a)).lookup key = if key = name then d.map f else none := by
  cases d with
  | none => simp
  | some a =>
    by_cases same : key = name
    · simp [same]
    · simp [List.lookup_cons,same,beq_false_of_ne same]

theorem forall_optional {P : β → Prop} (d : Option α) (name : String) (f : α → β) (each : ∀ a, P (f a)) :
    ∀ p ∈ d.toList.map fun a => (name,f a), P p.2 := by
  intro p member
  obtain ⟨a,_,rfl⟩ := List.mem_map.mp member
  exact each a

theorem names_optional (d : Option α) (name : String) (f : α → β) :
    ((d.toList.map fun a => (name,f a)).map (·.1)).Sublist [name] := by
  cases d <;> simp

end Lists

namespace Fields

theorem ofPairs?_eq {names : List String} {pairs : List (String × α)} (among : (pairs.map (·.1)).Sublist names)
    (distinct : names.Nodup) : ofPairs? names pairs = some pairs := by
  have known : pairs.filter (fun p => names.contains p.1) = pairs :=
    List.filter_eq_self.mpr fun p member => by simpa using among.subset (List.mem_map_of_mem member)
  simp only [ofPairs?,known]
  rw [if_pos (distinct.sublist among)]

/-- What may be missing is there or left out. -/
theorem optional?_eq {fields : List (String × β)} {name : String} {read? : β → Option (Option α)} {d : Option α}
    {f : α → β} (field : fields.lookup name = d.map f) (same : ∀ a, read? (f a) = some (some a)) :
    optional? fields name read? none = some d := by
  rw [optional?,field]
  cases d with
  | none => rfl
  | some a => exact same a

end Fields

open Json

theorem toInt32?_toInt (n : Int32) : Loose.toInt32? n.toInt = some n := by
  have fits : Int32.minValue.toInt ≤ n.toInt ∧ n.toInt ≤ Int32.maxValue.toInt := ⟨n.minValue_le_toInt,n.toInt_le⟩
  rw [Loose.toInt32?,if_pos (by simpa using fits),Int32.ofInt_toInt]

theorem fits_int32 (n : Int32) : Int64.minValue.toInt ≤ n.toInt ∧ n.toInt ≤ Int64.maxValue.toInt := by
  have low := n.le_toInt
  have high := n.toInt_lt
  have low' : Int64.minValue.toInt = -2 ^ 63 := by decide
  have high' : Int64.maxValue.toInt = 2 ^ 63 - 1 := by decide
  constructor <;> omega

/-- The fields of an object that was written, by their names. -/
theorem Loose.fields?_looseOf {names : List String} {fields : List (String × Data)}
    (among : (fields.map (·.1)).Sublist names) (distinct : names.Nodup) :
    (looseOf (.object fields)).fields? names = some (fields.map fun p => (p.1,looseOf p.2)) := by
  rw [looseOf,fieldLoosesOf_eq,fields?,List.mapM_map,mapM_eq_some (g := fun p => (p.1,looseOf p.2))]
  · exact Fields.ofPairs?_eq (by simpa [Function.comp_def] using among) distinct
  · exact fun _ _ => rfl

namespace Json

namespace Tree

theorem text?_treeOf (s : String) : (treeOf (.text s)).text? = some s := text?_written s

theorem int32?_treeOf (n : Int32) : (treeOf (.int n.toInt)).int32? = some n := by
  obtain ⟨fit,back⟩ := toInt64?_fits (fits_int32 n)
  rw [treeOf,int32?,Numeral.toInt64?_ofInt,fit,Option.bind_some,back,toInt32?_toInt]

theorem associativity?_treeOf (a : Associativity) : (treeOf (.text a.label)).associativity? = some a := by
  have named : Associativity.named? a.label = some a := by cases a <;> rfl
  have text := text?_treeOf a.label
  rw [treeOf] at text ⊢
  rw [associativity?,text,Option.bind_some,named]
  intro _ same
  cases same

theorem loose?_treeOf (faithful : d.Exact) (shallow : outer + (treeOf d).depth ≤ maxDepth) :
    (treeOf d).loose? outer = some (looseOf d) := by
  rw [loose?,if_pos shallow,toLoose?_treeOf faithful]

theorem list?_treeOf {read? : Tree → Option α} (items : List α) (f : α → Data)
    (each : ∀ a ∈ items, read? (treeOf (f a)) = some a) : list? read? (treeOf (.list (items.map f))) = some items := by
  rw [treeOf,treesOf_eq,list?,List.mapM_map,List.mapM_map]
  exact (mapM_eq_some (g := id) each).trans (by rw [List.map_id])

theorem entries?_treeOf (read? : Tree → Option β) (entries : List (String × α)) (f : α → Data) (g : α → β)
    (each : ∀ p ∈ entries, read? (treeOf (f p.2)) = some (g p.2)) :
    entries? read? (treeOf (.object (entries.map fun p => (p.1,f p.2)))) = some (entries.map fun p => (p.1,g p.2)) := by
  rw [treeOf,fieldTreesOf_eq,entries?,List.mapM_map,List.mapM_map]
  refine mapM_eq_some fun p member => ?_
  simp [Quoted.text?_escape,each p member]

/-- The fields of an object that was written, by their names. -/
theorem fields?_treeOf {names : List String} {fields : List (String × Data)}
    (among : (fields.map (·.1)).Sublist names) (distinct : names.Nodup) :
    (treeOf (.object fields)).fields? names = some (fields.map fun p => (p.1,treeOf p.2)) := by
  have entries := entries?_treeOf some fields id treeOf fun _ _ => rfl
  simp only [id_eq,List.map_id'] at entries
  rw [treeOf] at entries ⊢
  rw [Tree.fields?,entries]
  exact Fields.ofPairs?_eq (by simpa [Function.comp_def] using among) distinct

end Tree

theorem fieldsDepth_le (fields : List (String × Data)) (n : Nat) (each : ∀ p ∈ fields, (treeOf p.2).depth ≤ n) :
    Tree.fieldsDepth (fields.map fun p => (p.1.toList.flatMap escape,treeOf p.2)) ≤ n := by
  induction fields with
  | nil => exact Nat.zero_le n
  | cons p rest ih =>
    rw [List.map_cons,Tree.fieldsDepth]
    exact Nat.max_le.mpr ⟨each p List.mem_cons_self,ih fun p member => each p (List.mem_cons_of_mem _ member)⟩

end Json

namespace TokenSpec

def fields (spec : TokenSpec) : List (String × Data) :=
  [("pattern",.text spec.pattern)] ++ (spec.priority.toList.map fun p => ("priority",.int p.toInt)) ++
    (spec.lookahead.toList.map fun s => ("lookahead",.text s)) ++
    (spec.lookbehind.toList.map fun s => ("lookbehind",.text s)) ++
    ((if spec.keyword then some true else none).toList.map fun b => ("keyword",.bool b))

theorem toData_eq (spec : TokenSpec) : spec.toData = .object spec.fields := by
  cases keyword : spec.keyword <;> simp [toData,fields,keyword,Option.toList_map,Function.comp_def]

theorem forall_fields {P : Data → Prop} (spec : TokenSpec) (text : ∀ s, P (.text s))
    (int : ∀ n : Int32, P (.int n.toInt)) (bool : ∀ b, P (.bool b)) : ∀ p ∈ spec.fields, P p.2 := by
  simp only [fields,List.forall_mem_append]
  refine ⟨⟨⟨⟨?_,forall_optional _ _ _ int⟩,forall_optional _ _ _ text⟩,forall_optional _ _ _ text⟩,
    forall_optional _ _ _ bool⟩
  exact List.forall_mem_singleton.mpr (text _)

theorem fields_among (spec : TokenSpec) :
    (spec.fields.map (·.1)).Sublist ["pattern","priority","lookahead","lookbehind","keyword"] := by
  simp only [fields,List.map_append]
  exact ((((List.Sublist.refl ["pattern"]).append (names_optional _ _ _)).append (names_optional _ _ _)).append
    (names_optional _ _ _)).append (names_optional _ _ _)

theorem ofLoose?_toData (spec : TokenSpec) : ofLoose? (looseOf spec.toData) = some spec := by
  have among := Loose.fields?_looseOf spec.fields_among (by decide)
  have read := lookup_map spec.fields looseOf
  rw [toData_eq,ofLoose?,among]
  generalize (spec.fields.map fun p => (p.1,looseOf p.2)) = named at read
  have pattern : named.lookup "pattern" = some (.text spec.pattern) := by
    rw [read]
    simp [fields,looseOf]
  have priority : named.lookup "priority" = spec.priority.map fun p => .int p.toInt := by
    rw [read]
    simp [fields,List.lookup_append,lookup_optional,List.lookup_cons,Function.comp_def,looseOf]
  have lookahead : named.lookup "lookahead" = spec.lookahead.map .text := by
    rw [read]
    simp [fields,List.lookup_append,lookup_optional,List.lookup_cons,Function.comp_def,looseOf]
  have lookbehind : named.lookup "lookbehind" = spec.lookbehind.map .text := by
    rw [read]
    simp [fields,List.lookup_append,lookup_optional,List.lookup_cons,Function.comp_def,looseOf]
  have keyword : Fields.optional? named "keyword" Loose.bool? false = some spec.keyword := by
    rw [Fields.optional?,read]
    cases keyword : spec.keyword <;>
      simp [fields,List.lookup_append,lookup_optional,List.lookup_cons,keyword,looseOf,Loose.bool?]
  have int (p : Int32) : Loose.nullable? Loose.int32? (.int p.toInt) = some (some p) := by
    simp [Loose.nullable?,Loose.int32?,toInt32?_toInt]
  have text (s : String) : Loose.nullable? Loose.text? (.text s) = some (some s) := rfl
  simp [Fields.required?,pattern,Loose.text?,Fields.optional?_eq priority int,Fields.optional?_eq lookahead text,
    Fields.optional?_eq lookbehind text,keyword]

end TokenSpec

namespace TokenEntry

theorem toData_exact (entry : TokenEntry) : entry.toData.Exact := by
  cases entry with
  | plain pattern => exact .text pattern
  | detailed spec =>
    rw [toData,spec.toData_eq]
    exact .object _ (spec.forall_fields .text (fun n => .int _ (fits_int32 n)) .bool)

theorem ofLoose?_toData (entry : TokenEntry) : ofLoose? (looseOf entry.toData) = some entry := by
  cases entry with
  | plain pattern => rfl
  | detailed spec =>
    have same := spec.ofLoose?_toData
    have object : looseOf spec.toData = .object (fieldLoosesOf spec.fields) := by rw [spec.toData_eq,looseOf]
    rw [toData]
    rw [object] at same ⊢
    rw [ofLoose?,same]
    · rfl
    · intro _ text
      cases text

/-- No field of a token is a list or an object. -/
theorem depth_le (entry : TokenEntry) : (treeOf entry.toData).depth ≤ 1 := by
  cases entry with
  | plain pattern => exact Nat.zero_le 1
  | detailed spec =>
    have flat := fieldsDepth_le spec.fields 0 (spec.forall_fields (P := fun d => (treeOf d).depth ≤ 0)
      (fun _ => Nat.le_refl 0) (fun _ => Nat.le_refl 0) fun _ => Nat.le_refl 0)
    rw [toData,spec.toData_eq,treeOf,fieldTreesOf_eq,Tree.depth]
    exact Nat.add_le_add_right flat 1

end TokenEntry

namespace RuleEntry

def fields (r : RuleEntry) : List (String × Data) :=
  [("name",.text r.name),("pattern",.list (r.pattern.map .text)),("action",.text r.action)] ++
    (r.precedence.toList.map fun p => ("precedence",.int p.toInt)) ++
    (r.associativity.toList.map fun a => ("assoc",.text a.label))

theorem toData_eq (r : RuleEntry) : r.toData = .object r.fields := rfl

theorem toData_exact (r : RuleEntry) : r.toData.Exact := by
  have symbols : ∀ d ∈ r.pattern.map Data.text, d.Exact := by
    intro d member
    obtain ⟨s,_,rfl⟩ := List.mem_map.mp member
    exact .text s
  rw [toData_eq]
  refine .object _ ?_
  simp only [fields,List.forall_mem_append]
  refine ⟨⟨?_,forall_optional _ _ _ fun n => .int _ (fits_int32 n)⟩,forall_optional _ _ _ fun _ => .text _⟩
  simp only [List.forall_mem_cons]
  exact ⟨.text _,.list _ symbols,.text _,fun _ member => nomatch member⟩

theorem fields_among (r : RuleEntry) :
    (r.fields.map (·.1)).Sublist ["name","pattern","action","precedence","assoc"] := by
  simp only [fields,List.map_append]
  exact ((List.Sublist.refl ["name","pattern","action"]).append (names_optional _ _ _)).append (names_optional _ _ _)

theorem ofJson?_toData (r : RuleEntry) : ofJson? (treeOf r.toData) = some r := by
  have among := Tree.fields?_treeOf r.fields_among (by decide)
  have read := lookup_map r.fields treeOf
  rw [toData_eq,ofJson?,among]
  generalize (r.fields.map fun p => (p.1,treeOf p.2)) = named at read
  have name : named.lookup "name" = some (treeOf (.text r.name)) := by
    rw [read]
    simp [fields]
  have pattern : named.lookup "pattern" = some (treeOf (.list (r.pattern.map .text))) := by
    rw [read]
    simp [fields,List.lookup_cons]
  have action : named.lookup "action" = some (treeOf (.text r.action)) := by
    rw [read]
    simp [fields,List.lookup_cons]
  have precedence : named.lookup "precedence" = r.precedence.map fun p => treeOf (.int p.toInt) := by
    rw [read]
    simp [fields,List.lookup_append,lookup_optional,List.lookup_cons,Function.comp_def]
  have assoc : named.lookup "assoc" = r.associativity.map fun a => treeOf (.text a.label) := by
    rw [read]
    simp [fields,List.lookup_append,lookup_optional,List.lookup_cons,Function.comp_def]
  have symbols : Fields.optional? named "pattern" (Tree.list? Tree.text?) [] = some r.pattern := by
    rw [Fields.optional?,pattern]
    exact Tree.list?_treeOf r.pattern .text fun s _ => Tree.text?_treeOf s
  have action : Fields.optional? named "action" Tree.text? "" = some r.action := by
    rw [Fields.optional?,action]
    exact Tree.text?_treeOf r.action
  have int (p : Int32) : Tree.nullable? Tree.int32? (treeOf (.int p.toInt)) = some (some p) :=
    congrArg (Option.map some) (Tree.int32?_treeOf p)
  have side (a : Associativity) : Tree.nullable? Tree.associativity? (treeOf (.text a.label)) = some (some a) :=
    congrArg (Option.map some) (Tree.associativity?_treeOf a)
  simp [Fields.required?,name,Tree.text?_treeOf,symbols,action,Fields.optional?_eq precedence int,
    Fields.optional?_eq assoc side]

end RuleEntry

namespace GrammarFile

def fields (f : GrammarFile) : List (String × Data) :=
  [("name",.text f.name),("tokens",.object (f.tokens.map fun p => (p.1,p.2.toData))),
    ("rules",.list (f.rules.map RuleEntry.toData))] ++
    (if f.context.isEmpty then [] else [("context",.object (f.context.map fun p => (p.1,p.2.toData)))]) ++
    (f.start.toList.map fun s => ("start",.text s))

theorem toData_eq (f : GrammarFile) : f.toData = .object f.fields := by
  rw [toData,Value.entriesToData_eq]
  rfl

/-- A context that JSON keeps: its entries are in the order of their keys, and their values, which
stand inside two objects, are exact and do not nest too deeply. -/
structure Kept (f : GrammarFile) : Prop where
  sorted : Entries.Sorted f.context
  exact : ∀ p ∈ f.context, p.2.Exact
  shallow : ∀ p ∈ f.context, 2 + p.2.depth ≤ maxDepth

theorem toData_exact {f : GrammarFile} (kept : f.Kept) : f.toData.Exact := by
  have tokens : ∀ p ∈ f.tokens.map fun p => (p.1,p.2.toData), p.2.Exact := by
    intro p member
    obtain ⟨q,_,rfl⟩ := List.mem_map.mp member
    exact q.2.toData_exact
  have rules : ∀ d ∈ f.rules.map RuleEntry.toData, d.Exact := by
    intro d member
    obtain ⟨r,_,rfl⟩ := List.mem_map.mp member
    exact r.toData_exact
  have context : ∀ p ∈ f.context.map fun p => (p.1,p.2.toData), p.2.Exact := by
    intro p member
    obtain ⟨q,listed,rfl⟩ := List.mem_map.mp member
    exact (kept.exact q listed).toData
  rw [toData_eq]
  refine .object _ ?_
  simp only [fields,List.forall_mem_append]
  refine ⟨⟨?_,?_⟩,forall_optional _ _ _ .text⟩
  · simp only [List.forall_mem_cons]
    exact ⟨.text _,.object _ tokens,.list _ rules,fun _ member => nomatch member⟩
  · split
    · exact fun _ member => nomatch member
    · exact List.forall_mem_singleton.mpr (.object _ context)

theorem fields_among (f : GrammarFile) : (f.fields.map (·.1)).Sublist ["name","tokens","rules","context","start"] := by
  have context : ((if f.context.isEmpty then [] else
      [("context",Data.object (f.context.map fun p => (p.1,p.2.toData)))]).map (·.1)).Sublist ["context"] := by
    split <;> simp
  simp only [fields,List.map_append]
  exact ((List.Sublist.refl ["name","tokens","rules"]).append context).append (names_optional _ _ _)

theorem ofJson?_toData {f : GrammarFile} (kept : f.Kept) : ofJson? (treeOf f.toData) = some f := by
  have among := Tree.fields?_treeOf f.fields_among (by decide)
  have read := lookup_map f.fields treeOf
  rw [toData_eq,ofJson?,among]
  generalize (f.fields.map fun p => (p.1,treeOf p.2)) = named at read
  have name : named.lookup "name" = some (treeOf (.text f.name)) := by
    rw [read]
    simp [fields]
  have tokens : Fields.optional? named "tokens"
      (Tree.entries? fun t => (t.loose? 2).bind TokenEntry.ofLoose?) [] = some f.tokens := by
    have found : named.lookup "tokens" = some (treeOf (.object (f.tokens.map fun p => (p.1,p.2.toData)))) := by
      rw [read]
      simp [fields,List.lookup_cons]
    rw [Fields.optional?,found]
    refine (Tree.entries?_treeOf _ f.tokens TokenEntry.toData id fun p _ => ?_).trans (by simp)
    have flat := p.2.depth_le
    have shallow : 2 + (treeOf p.2.toData).depth ≤ maxDepth := by simp only [maxDepth]; omega
    rw [Tree.loose?_treeOf p.2.toData_exact shallow]
    exact p.2.ofLoose?_toData
  have rules : Fields.optional? named "rules" (Tree.list? RuleEntry.ofJson?) [] = some f.rules := by
    have found : named.lookup "rules" = some (treeOf (.list (f.rules.map RuleEntry.toData))) := by
      rw [read]
      simp [fields,List.lookup_cons]
    rw [Fields.optional?,found]
    exact Tree.list?_treeOf f.rules RuleEntry.toData fun r _ => r.ofJson?_toData
  have context : Fields.optional? named "context"
      (Tree.entries? fun t => (t.loose? 2).bind Value.ofLoose?) [] = some f.context := by
    by_cases empty : f.context = []
    · have missing : named.lookup "context" = none := by
        rw [read]
        simp [fields,lookup_optional,List.lookup_cons,empty]
      rw [Fields.optional?,missing,empty]
    · have found : named.lookup "context" = some (treeOf (.object (f.context.map fun p => (p.1,p.2.toData)))) := by
        rw [read]
        simp [fields,List.lookup_cons,empty]
      rw [Fields.optional?,found]
      refine (Tree.entries?_treeOf _ f.context Value.toData id fun p member => ?_).trans (by simp)
      have faithful := kept.exact p member
      have shallow := kept.shallow p member
      rw [← Value.depth_eq faithful] at shallow
      rw [Tree.loose?_treeOf faithful.toData shallow]
      exact Value.ofLoose?_toData faithful
  have start : named.lookup "start" = f.start.map fun s => treeOf (.text s) := by
    rw [read]
    by_cases empty : f.context = [] <;>
      simp [fields,lookup_optional,List.lookup_cons,Function.comp_def,empty]
  have text (s : String) : Tree.nullable? Tree.text? (treeOf (.text s)) = some (some s) :=
    congrArg (Option.map some) (Tree.text?_treeOf s)
  simp [Fields.required?,name,Tree.text?_treeOf,tokens,rules,context,Fields.optional?_eq start text,
    kept.sorted.ofList_eq]

/-- A file that was written as JSON reads as itself: with its tokens in their order, and with the
fields that were left out. -/
theorem read_write (f : GrammarFile) (kept : f.Kept) : read (f.write .json) .json = .ok f := by
  simp only [read,write,Tree.ofText?_pretty (toData_exact kept),ofJson?_toData kept]

def quoted : GrammarFile where
  name := "\"\t☃"
  tokens := [("B",.detailed { pattern := "\\", priority := some (-1), lookbehind := some "" }),("A",.plain "a")]
  rules := [⟨"r",["A","B"],"",some 0,some .none⟩,⟨"r",[],"x",none,none⟩]
  context := [("k",.map [("x",.int (-3)),("y",.list [.null,.str "\x00"])])]

theorem quoted_kept : quoted.Kept where
  sorted := List.pairwise_singleton _ _
  exact := by
    have sorted : ["x","y"].Pairwise (· < ·) := by decide
    have items : ∀ v ∈ [Value.null,.str "\x00"], v.Exact := by
      simp only [List.forall_mem_cons]
      exact ⟨.null,.str _,fun _ member => nomatch member⟩
    have entries : ∀ p ∈ [("x",Value.int (-3)),("y",.list [.null,.str "\x00"])], p.2.Exact := by
      simp only [List.forall_mem_cons]
      exact ⟨.int _,.list _ items,fun _ member => nomatch member⟩
    exact List.forall_mem_singleton.mpr (.map _ sorted entries)
  shallow := by decide

theorem read_write_quoted : quoted.Kept ∧ (quoted.tokens.map (·.1)).Nodup ∧
    read (quoted.write .json) .json = .ok quoted :=
  ⟨quoted_kept,by decide,read_write quoted quoted_kept⟩

end GrammarFile

end Packrat
