import Accessors.Command.Run
import Accessors.Proofs.ByteOrder
import Accessors.Proofs.InsertionPoint
import Accessors.Proofs.PairedAccessors
import Accessors.Proofs.SeparateMethods

/-!
# Picking a member by its number

The number of a member leads to its name, and the name to all members that have it. What is then
written is what the member alone is given just if the first request for each of its methods yields
the same as its own, and the others ask for no further method.
-/

namespace Accessors

open Text

namespace Batch

/-- The code of a batch that came to its end, or the complaint that stopped it. -/
def result : Batch × Option TemplateError → Except TemplateError Text
  | (b, none) => .ok b.code
  | (_, some e) => .error e

/-- A batch renders its fresh requests in order. -/
theorem result_run (t : Template) (source : Text) (b : Batch) (rs : List Request) :
    result (run t source b rs) =
      ((fresh source b.emitted rs).mapM (Request.render t)).map fun codes =>
        b.code ++ codes.flatten := by
  induction rs generalizing b with
  | nil =>
    change .ok b.code = Except.ok (b.code ++ [])
    rw [List.append_nil]
  | cons r rs ih =>
    rw [run]
    by_cases hd : Method.declares source r.method = true
    · rw [if_pos hd, fresh_cons_of_skipped (.inl hd), ih]
      rfl
    · rw [if_neg hd]
      by_cases hm : r.method ∈ b.emitted
      · rw [if_pos hm, fresh_cons_of_skipped (.inr hm), ih]
        rfl
      · rw [if_neg hm, fresh_cons_of_new hd hm, List.mapM_cons]
        cases hr : r.render t with
        | error e => rfl
        | ok code =>
          dsimp only
          rw [ih]
          change Except.map _ (List.mapM _ (fresh source (b.emitted ++ [r.method]) rs)) = _
          cases List.mapM (Request.render t) (fresh source (b.emitted ++ [r.method]) rs) with
          | error e => rfl
          | ok codes =>
            change Except.ok (b.code ++ code ++ codes.flatten) =
              .ok (b.code ++ (code ++ codes.flatten))
            rw [List.append_assoc]

end Batch

/-- Two lists with the same keys have the same values, if a key has the same value in both. -/
theorem map_eq_map_of_keys {α β γ : Type} {key : α → β} {value : α → γ} {as bs : List α}
    (hkeys : as.map key = bs.map key)
    (h : ∀ a ∈ as, ∀ b ∈ bs, key a = key b → value a = value b) : as.map value = bs.map value := by
  induction as generalizing bs with
  | nil =>
    obtain rfl := List.map_eq_nil_iff.mp hkeys.symm
    rfl
  | cons a as ih =>
    obtain ⟨b, bs, rfl, hkey, hkeys⟩ := List.map_eq_cons_iff.mp hkeys.symm
    rw [List.map_cons, List.map_cons, h a List.mem_cons_self b List.mem_cons_self hkey.symm,
      ih hkeys.symm fun c hc d hd => h c (List.mem_cons_of_mem a hc) d (List.mem_cons_of_mem b hd)]

namespace Generator

def alone (g : Generator) (source : Text) (kind : Kind) (m : Member) :
    Except TemplateError Text :=
  match kind with
  | .getters => g.accessor source .getter m
  | .setters => g.accessor source .setter m
  | .both => g.pairs source [m]

def requestsOf (g : Generator) (kind : Kind) (m : Member) : List Request :=
  (kind.accessors g.options.setterFirst).map fun a => ⟨a, m⟩

/-- All members of the name of this one lack, in its order, the methods that it lacks itself, and
the first of them to ask for a method gets the code that this one would get. -/
structure NamesakesAgree (g : Generator) (source : Text) (kind : Kind) (m : Member) : Prop where
  missing_eq : g.missing source kind (.named m.name) =
    ((g.requestsOf kind m).map Request.method).filter fun n => !Method.declares source n
  yields : ∀ r ∈ g.requestsOf kind m, Method.declares source r.method = false →
    g.Yields source kind (.named m.name) r.method (g.accessor source r.accessor m)

variable {g : Generator} {source : Text} {kind : Kind} {selection : Selection} {m : Member}

theorem generate_map_code : (g.generate source kind selection).map Generated.code =
    Batch.result (g.batch source kind (g.selected source selection)) := by
  rw [generate]
  rcases g.batch source kind (g.selected source selection) with ⟨b, _ | e⟩ <;> rfl

theorem ofMembers_singleton :
    Request.ofMembers kind g.options.setterFirst [m] = g.requestsOf kind m :=
  List.flatMap_singleton _ m

theorem alone_eq : g.alone source kind m = Batch.result (g.batch source kind [m]) := by
  have hsingle : ∀ a, g.accessor source a m =
      Batch.result (Batch.run g.template source {} [⟨a, m⟩]) := by
    intro a
    rw [accessor, Request.code, Batch.run]
    split
    · rfl
    · rw [if_neg List.not_mem_nil]
      cases Request.render g.template ⟨a, m⟩ <;> rfl
  cases kind with
  | getters => exact hsingle .getter
  | setters => exact hsingle .setter
  | both =>
    rw [alone, pairs]
    rcases g.batch source .both [m] with ⟨b, _ | e⟩ <;> rfl

theorem fresh_requestsOf : Batch.fresh source [] (g.requestsOf kind m) =
    (g.requestsOf kind m).filter fun r => !Method.declares source r.method := by
  rw [requestsOf, Batch.fresh_eq_filter (Request.nodup_map_method kind g.options.setterFirst m)]
  simp

theorem accessor_of_mem_requestsOf {r : Request} (h : r ∈ g.requestsOf kind m)
    (hd : Method.declares source r.method = false) :
    g.accessor source r.accessor m = r.render g.template := by
  obtain ⟨a, -, rfl⟩ := List.mem_map.mp h
  rw [accessor, Request.code, if_neg (by simp [hd])]

/-- Namesakes agree just if they are written, method by method, as the member alone is. -/
theorem namesakesAgree_iff : g.NamesakesAgree source kind m ↔
    (Batch.fresh source [] (g.requests source kind (.named m.name))).map
        (fun r => (r.method, r.render g.template)) =
      (Batch.fresh source [] (g.requestsOf kind m)).map
        fun r => (r.method, r.render g.template) := by
  have hmethods : ((g.requestsOf kind m).map Request.method).filter
        (fun n => !Method.declares source n) =
      (Batch.fresh source [] (g.requestsOf kind m)).map Request.method := by
    rw [fresh_requestsOf, List.filter_map]
    rfl
  constructor
  · rintro ⟨hmissing, hyields⟩
    rw [hmethods, Generator.missing_eq] at hmissing
    refine map_eq_map_of_keys hmissing fun r hr q hq hmethod => ?_
    obtain ⟨hmem, hd⟩ := Batch.mem_fresh hq
    have hrender := hyields q hmem hd
    rw [accessor_of_mem_requestsOf hmem hd, ← hmethod, yields_iff hr] at hrender
    rw [hmethod, hrender]
  · intro h
    constructor
    · have hfst := congrArg (List.map Prod.fst) h
      rw [List.map_map, List.map_map] at hfst
      rw [hmethods, Generator.missing_eq]
      exact hfst
    · intro q hmem hd
      have hq : q ∈ Batch.fresh source [] (g.requestsOf kind m) := by
        rw [fresh_requestsOf, List.mem_filter]
        exact ⟨hmem, by simp [hd]⟩
      have hpair := List.mem_map_of_mem (f := fun r => (r.method, r.render g.template)) hq
      rw [← h] at hpair
      obtain ⟨r, hr, hrq⟩ := List.mem_map.mp hpair
      obtain ⟨hmethod, hrender⟩ := Prod.mk.inj hrq
      rw [accessor_of_mem_requestsOf hmem hd, ← hmethod, ← hrender]
      exact (yields_iff hr).mpr rfl

/-- If namesakes agree, all of them together get what the member alone is given. -/
theorem NamesakesAgree.generate_eq (h : g.NamesakesAgree source kind m) :
    (g.generate source kind (.named m.name)).map Generated.code = g.alone source kind m := by
  have hrenders := congrArg (List.map Prod.snd) (namesakesAgree_iff.mp h)
  rw [List.map_map, List.map_map] at hrenders
  have hmapM := congrArg (List.mapM id) hrenders
  rw [List.mapM_map, List.mapM_map] at hmapM
  rw [generate_map_code, alone_eq, batch, batch, Batch.result_run, Batch.result_run,
    ofMembers_singleton]
  exact congrArg (Except.map fun codes => [] ++ codes.flatten) hmapM

theorem namesakesAgree_of_unique {i : Nat} (hm : (g.members source)[i]? = some m)
    (h : ∀ j n, (g.members source)[j]? = some n → n.name = m.name → j = i) :
    g.NamesakesAgree source kind m := by
  have hselected : g.selected source (.named m.name) = [m] := by
    obtain ⟨hi, hmi⟩ := List.getElem?_eq_some_iff.mp hm
    have hown : (Selection.named m.name).selects m = true := beq_iff_eq.mpr rfl
    have hother : ∀ j n, (g.members source)[j]? = some n → j ≠ i →
        ¬(Selection.named m.name).selects n = true := by
      intro j n hn hj hselects
      exact hj (h j n hn (beq_iff_eq.mp hselects))
    rw [selected, ← List.take_append_drop i (g.members source), List.drop_eq_getElem_cons hi, hmi,
      List.filter_append, List.filter_cons_of_pos hown,
      List.filter_eq_nil_iff.mpr, List.filter_eq_nil_iff.mpr]
    · rfl
    · intro n hn
      obtain ⟨k, hk⟩ := List.mem_iff_getElem?.mp hn
      rw [List.getElem?_drop] at hk
      exact hother _ n hk (by omega)
    · intro n hn
      obtain ⟨k, hk⟩ := List.mem_iff_getElem?.mp hn
      rw [List.getElem?_take] at hk
      split at hk
      · exact hother k n hk (by omega)
      · cases hk
  rw [namesakesAgree_iff, requests, hselected, ofMembers_singleton]

theorem alone_of_valid (h : g.template.validate = .ok ()) : g.alone source kind m =
    .ok ((Batch.fresh source [] (g.requestsOf kind m)).flatMap (Request.text g.template)) := by
  obtain ⟨b, hb, hcode, -, -⟩ := Batch.run_eq_of_render
    (fun r (_ : r ∈ g.requestsOf kind m) => r.render_eq_ok h) source {}
  rw [alone_eq, batch, ofMembers_singleton, hb, Batch.result, hcode]
  rfl

variable {s : Standard} {tabs : Bool}

/-- Code of a standard template shows whether namesakes agree. -/
theorem namesakesAgree_of_generate_eq (hg : g.template = s.template.indented tabs)
    (hm : m ∈ g.members source)
    (h : (g.generate source kind (.named m.name)).map Generated.code = g.alone source kind m) :
    g.NamesakesAgree source kind m := by
  obtain ⟨template, options⟩ := g
  obtain rfl : template = s.template.indented tabs := hg
  have hvalid : (Generator.mk (s.template.indented tabs) options).template.validate = .ok () :=
    Template.validate_indented tabs s.validate_template
  rw [generate_eq_ok hvalid, alone_of_valid hvalid] at h
  have hwritten : ∀ r ∈ Batch.fresh source []
      (requests ⟨s.template.indented tabs, options⟩ source kind (.named m.name)),
      r.member ∈ (s.generator tabs options).members source :=
    fun r hr => (List.mem_filter.mp (mem_requests (Batch.mem_fresh hr).1)).1
  have halone : ∀ r ∈ Batch.fresh source []
      (requestsOf ⟨s.template.indented tabs, options⟩ kind m),
      r.member ∈ (s.generator tabs options).members source := by
    intro r hr
    obtain ⟨a, -, rfl⟩ := List.mem_map.mp (Batch.mem_fresh hr).1
    exact hm
  have htexts := Request.map_text_eq_of_flatMap_eq hwritten halone (Except.ok.inj h)
  refine namesakesAgree_iff.mpr (map_eq_map_of_keys htexts fun r hr q hq htext => ?_)
  rw [Request.method_eq_of_text_eq (hwritten r hr) (halone q hq) htext, r.render_eq_ok hvalid,
    q.render_eq_ok hvalid, htext]

end Generator

theorem Text.ofBytes?_toBytes (t : Text) : ofBytes? (toBytes t) = some t := by
  have hvalid : (String.ofList t).toUTF8.IsValidUTF8 := (String.ofList t).isValidUTF8
  rw [ofBytes?, toBytes, String.fromUTF8?, dif_pos hvalid]
  exact congrArg some String.toList_ofList

theorem readBytes_octets (t : Text) : readBytes ⟨(octets t).toArray⟩ = .ok t := by
  have hbytes : (⟨(octets t).toArray⟩ : ByteArray) = toBytes t := by
    rw [octets, Array.toArray_toList]
  rw [hbytes, readBytes, ofBytes?_toBytes]

theorem Text.isDigit_of_mem_ofNat {i : Nat} {c : Char} (h : c ∈ ofNat i) : c.isDigit = true :=
  Nat.isDigit_of_mem_toDigits (by decide) (by decide) h

theorem Text.trim_ofNat (i : Nat) : trim (ofNat i) = ofNat i := by
  have hspace : ∀ c ∈ ofNat i, isSpace c = false := by
    intro c hc
    have hdigit := isDigit_of_mem_ofNat hc
    simp only [Char.isDigit, Bool.and_eq_true, decide_eq_true_eq] at hdigit
    apply isSpace_eq_false_of_isNameChar
    exact @isNameChar_of_codesNames c 0x30 0x39 (by decide) hdigit.1 hdigit.2
  have htrim := @trim_eq_of_parts [] (ofNat i) [] (by simp) (by simp)
    (fun c hc => hspace c (List.mem_of_mem_head? hc))
    (fun c hc => hspace c (List.mem_of_getLast? hc))
  simpa using htrim

namespace Command

theorem index?_ofNat {i : Nat} (h : i < Nat.pow 2 64) : index? (ofNat i) = some i := by
  have hvalue : digitsValue (ofNat i) = i := Nat.ofDigitChars_toDigits (by decide) (by decide)
  have hdigits : (ofNat i).all Char.isDigit = true :=
    List.all_eq_true.mpr fun c hc => isDigit_of_mem_ofNat hc
  rw [index?, if_pos ⟨Nat.toDigits_ne_nil, hdigits, by rwa [hvalue]⟩, hvalue]
  intro r hr
  have hplus := @isDigit_of_mem_ofNat i '+' (by simp [hr])
  cases hplus

/-- The numeral of a number means the member that has it. -/
theorem choose_ofNat {names : List Text} {i : Nat} (h : i < names.length) (hi : i < Nat.pow 2 64) :
    choose names (ofNat i) = .ok (some i) := by
  have hne : (ofNat i).isEmpty = false := by
    rw [Bool.eq_false_iff, ne_eq, List.isEmpty_iff]
    exact Nat.toDigits_ne_nil
  simp only [choose, trim_ofNat, hne, index?_ofNat hi, if_pos h, Bool.false_eq_true, if_false]

def offer (g : Generator) (source : Text) : Text :=
  (g.items source).zipIdx.flatMap fun ((name, description), i) => itemRow i name description

/-- How a run that has made its offer delivers code: it prints the code, or asks for the file of the
source to be written with it, or reports the complaint. -/
structure Delivers (w : Workspace) (path : Text) (write : Bool) (offer : Text)
    (result : Except TemplateError Text) (r : Report) : Prop where
  fails : ∀ e, result = .error e →
    r.out = offer ∧ r.write = none ∧ r.failure = some ⟨e.message, []⟩
  prints : ∀ code, result = .ok code → write = false →
    r.out = offer ++ code ∧ r.write = none ∧ r.failure = none
  writes : ∀ code, result = .ok code → write = true →
    r.out = offer ∧ r.write =
      if code = [] then none
      else (Insertion.insert? w.input.text code).map fun text => (path, text)

variable {w : Workspace} {g : Generator} {kind : Kind} {selection : Selection} {write : Bool}
  {stdin : ByteArray} {path : Text} {i : Nat} {m : Member}

theorem delivers_deliver (hpath : w.input.path = some path) (made : Generated) :
    Delivers w path write [] (.ok made.code) (deliver w made write) := by
  rw [deliver]
  constructor
  · rintro e ⟨⟩
  · rintro code ⟨⟩ rfl
    split
    · next hempty =>
      rw [List.isEmpty_iff.mp hempty]
      exact ⟨rfl, rfl, rfl⟩
    · exact ⟨rfl, rfl, rfl⟩
  · rintro code ⟨⟩ rfl
    split
    · next hempty =>
      rw [if_pos (List.isEmpty_iff.mp hempty)]
      exact ⟨rfl, rfl⟩
    · next hcode =>
      rw [if_neg fun hnil => hcode (List.isEmpty_iff.mpr hnil), if_pos rfl, hpath]
      dsimp only
      cases Insertion.insert? w.input.text made.code <;> exact ⟨rfl, rfl⟩

theorem delivers_generate (hpath : w.input.path = some path) :
    Delivers w path write [] ((g.generate w.input.text kind selection).map Generated.code)
      (generate w g kind selection write) := by
  rw [generate]
  cases g.generate w.input.text kind selection with
  | error e =>
    constructor
    · rintro e' ⟨⟩
      exact ⟨rfl, rfl, rfl⟩
    · rintro code ⟨⟩
    · rintro code ⟨⟩
  | ok made =>
    obtain ⟨hfails, hprints, hwrites⟩ := @delivers_deliver w write path hpath made
    exact ⟨hfails, hprints, hwrites⟩

/-- What is delivered is settled by the report. -/
theorem Delivers.code_eq {offer code code' : Text} {r : Report}
    (h : Delivers w path write offer (.ok code) r) (h' : Delivers w path write offer (.ok code') r)
    (hplace : write = true → (Insertion.offset? w.input.text).isSome) : code = code' := by
  cases write with
  | false =>
    have hout := (h.prints code rfl rfl).1
    rw [(h'.prints code' rfl rfl).1, List.append_cancel_left_eq] at hout
    exact hout.symm
  | true =>
    obtain ⟨before, after, hcut⟩ := Insertion.offset?_isSome_iff.mp (hplace rfl)
    have hwrite := (h.writes code rfl rfl).2
    rw [(h'.writes code' rfl rfl).2, Insertion.insert?_of_cut? hcut, Insertion.insert?_of_cut? hcut]
      at hwrite
    by_cases hnil : code = [] <;> by_cases hnil' : code' = []
    · rw [hnil, hnil']
    · rw [if_neg hnil', if_pos hnil] at hwrite
      cases hwrite
    · rw [if_pos hnil', if_neg hnil] at hwrite
      cases hwrite
    · rw [if_neg hnil', if_neg hnil] at hwrite
      have htext := (Prod.mk.inj (Option.some.inj hwrite)).2
      rw [List.append_cancel_right_eq, List.append_cancel_left_eq] at htext
      exact htext.symm

/-- Picking a number goes on with the name of the member that has it. -/
theorem pick_ofNat (hpath : w.input.path = some path)
    (hm : (g.members w.input.text)[i]? = some m) (hi : i < Nat.pow 2 64)
    (hanswer : firstLine? stdin.toList = some (octets (ofNat i))) :
    (pick w g kind write stdin).out =
        offer g w.input.text ++ (generate w g kind (.named m.name) write).out ∧
      (pick w g kind write stdin).write = (generate w g kind (.named m.name) write).write ∧
      (pick w g kind write stdin).failure = (generate w g kind (.named m.name) write).failure := by
  have hlength : i < ((g.items w.input.text).map Prod.fst).length := by
    have hlt := (List.getElem?_eq_some_iff.mp hm).1
    simpa [Generator.items] using hlt
  have hname : ((g.items w.input.text).map Prod.fst)[i]? = some m.name := by
    simp [Generator.items, hm]
  have hrespond : respond w g kind write ((g.items w.input.text).map Prod.fst) stdin.toList =
      Report.after [.memberPicked m.name] (generate w g kind (.named m.name) write) := by
    rw [respond, hanswer]
    dsimp only
    rw [readBytes_octets]
    dsimp only
    rw [answer, choose_ofNat hlength hi]
    dsimp only
    rw [hname]
  have hitems : (g.items w.input.text).isEmpty = false := by
    rw [Bool.eq_false_iff, ne_eq, List.isEmpty_iff]
    intro hnil
    rw [hnil] at hlength
    cases hlength
  rw [pick, hitems, hpath]
  simp only [Bool.false_eq_true, if_false, Option.isSome_some, if_true, hrespond, Report.after,
    offer, and_self]

theorem delivers_pick (hpath : w.input.path = some path)
    (hm : (g.members w.input.text)[i]? = some m) (hi : i < Nat.pow 2 64)
    (hanswer : firstLine? stdin.toList = some (octets (ofNat i))) :
    Delivers w path write (offer g w.input.text)
      ((g.generate w.input.text kind (.named m.name)).map Generated.code)
      (pick w g kind write stdin) := by
  obtain ⟨hout, hwrite, hfailure⟩ := @pick_ofNat w g kind write stdin path i m hpath hm hi hanswer
  obtain ⟨hfails, hprints, hwrites⟩ := @delivers_generate w g kind (.named m.name) write path hpath
  constructor
  · intro e he
    obtain ⟨hout', hwrite', hfailure'⟩ := hfails e he
    exact ⟨by rw [hout, hout', List.append_nil], hwrite.trans hwrite', hfailure.trans hfailure'⟩
  · intro code hcode hprint
    obtain ⟨hout', hwrite', hfailure'⟩ := hprints code hcode hprint
    exact ⟨by rw [hout, hout', List.nil_append], hwrite.trans hwrite', hfailure.trans hfailure'⟩
  · intro code hcode hasked
    obtain ⟨hout', hwrite'⟩ := hwrites code hcode hasked
    exact ⟨by rw [hout, hout', List.append_nil], hwrite.trans hwrite'⟩

/-- Who picks the number of a member gets the code for all members of its name. That is what the
member alone is given if its namesakes agree, as they do if there are none, and for a standard
template only then. -/
theorem picked_member_gets_own_code_iff (hpath : w.input.path = some path)
    (hm : (g.members w.input.text)[i]? = some m) (hi : i < Nat.pow 2 64)
    (hanswer : firstLine? stdin.toList = some (octets (ofNat i))) :
    Delivers w path write (offer g w.input.text)
        ((g.generate w.input.text kind (.named m.name)).map Generated.code)
        (pick w g kind write stdin) ∧
      (g.NamesakesAgree w.input.text kind m →
        Delivers w path write (offer g w.input.text) (g.alone w.input.text kind m)
          (pick w g kind write stdin)) ∧
      ((∀ j n, (g.members w.input.text)[j]? = some n → n.name = m.name → j = i) →
        g.NamesakesAgree w.input.text kind m) ∧
      ∀ (s : Standard) (tabs : Bool), g.template = s.template.indented tabs →
        (write = true → (Insertion.offset? w.input.text).isSome) →
          (Delivers w path write (offer g w.input.text) (g.alone w.input.text kind m)
              (pick w g kind write stdin) ↔
            g.NamesakesAgree w.input.text kind m) := by
  have hpick := @delivers_pick w g kind write stdin path i m hpath hm hi hanswer
  have hagree : g.NamesakesAgree w.input.text kind m →
      Delivers w path write (offer g w.input.text) (g.alone w.input.text kind m)
        (pick w g kind write stdin) := by
    intro h
    rwa [← h.generate_eq]
  refine ⟨hpick, hagree, Generator.namesakesAgree_of_unique hm, ?_⟩
  intro s tabs hg hplace
  refine ⟨fun h => ?_, hagree⟩
  have hvalid : g.template.validate = .ok () := by
    rw [hg]
    exact Template.validate_indented tabs s.validate_template
  apply Generator.namesakesAgree_of_generate_eq hg (List.mem_of_getElem? hm)
  rw [Generator.generate_eq_ok hvalid] at hpick ⊢
  rw [Generator.alone_of_valid hvalid] at h ⊢
  exact congrArg Except.ok (hpick.code_eq h hplace)

/-- Two classes, each with a member of the same name. -/
def twinClasses : Text :=
  "<?php\nclass A \x7b\n    /** @var int */\n    private $id;\n\x7d\n" ++
    "class B \x7b\n    /** @var string */\n    private $id;\n\x7d\n"

def twinWorkspace : Workspace where
  input := ⟨some "A.php", twinClasses⟩
  catalogue := .standard true
  options := {}

def twinGenerator : Generator :=
  Standard.psr2.generator true {}

def twinMember (type : Text) (line : Nat) : Member where
  name := "id"
  visibility := .isPrivate
  declaredType := type
  description := "value of id"
  hint := .given type
  line := line
  style := .camel
  marksPrivate := false

def twinGetter (type : Text) : Text :=
  "\n\t/**\n\t * @return " ++ type ++ "\n\t */\n\tpublic function getId()\n\t\x7b\n" ++
    "\t\treturn $this->id;\n\t\x7d\n"

theorem members_twinClasses :
    twinGenerator.members twinClasses = [twinMember "int" 4, twinMember "string" 8] := by
  decide

/-- Who picks the first of the two members gets its code. -/
theorem twinClasses_first_gets_own_code :
    (twinGenerator.members twinClasses)[0]? = some (twinMember "int" 4) ∧
      twinGenerator.NamesakesAgree twinClasses .getters (twinMember "int" 4) ∧
      Delivers twinWorkspace "A.php" false (offer twinGenerator twinClasses)
        (twinGenerator.alone twinClasses .getters (twinMember "int" 4))
        (pick twinWorkspace twinGenerator .getters false ⟨#[48, 10]⟩) := by
  have hfirst : (twinGenerator.members twinClasses)[0]? = some (twinMember "int" 4) :=
    congrArg (·[0]?) members_twinClasses
  have hanswer : firstLine? (ByteArray.toList ⟨#[48, 10]⟩) = some (octets (ofNat 0)) := by
    decide +kernel
  have hagree : twinGenerator.NamesakesAgree twinClasses .getters (twinMember "int" 4) := by
    have hstandard : twinGenerator.template = Standard.psr2.template.indented true := rfl
    apply Generator.namesakesAgree_of_generate_eq hstandard (List.mem_of_getElem? hfirst)
    decide
  obtain ⟨-, hdelivers, -⟩ := @picked_member_gets_own_code_iff twinWorkspace twinGenerator .getters
    false ⟨#[48, 10]⟩ "A.php" 0 _ rfl hfirst (by decide) hanswer
  exact ⟨hfirst, hagree, hdelivers hagree⟩

/-- Who picks the second gets the code of the first. -/
theorem twinClasses_second_gets_code_of_first :
    (twinGenerator.members twinClasses)[1]? = some (twinMember "string" 8) ∧
      twinGenerator.alone twinClasses .getters (twinMember "string" 8) =
        .ok (twinGetter "string") ∧
      (pick twinWorkspace twinGenerator .getters false ⟨#[49, 10]⟩).out =
        offer twinGenerator twinClasses ++ twinGetter "int" ∧
      twinGetter "int" ≠ twinGetter "string" := by
  refine ⟨congrArg (·[1]?) members_twinClasses, ?_, ?_, ?_⟩ <;> decide +kernel

end Command

end Accessors
