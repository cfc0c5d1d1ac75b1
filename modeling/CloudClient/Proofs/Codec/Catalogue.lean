import CloudClient.Proofs.Codec.Call
import Mathlib.Data.List.Induction
import Mathlib.Data.List.Nodup

namespace CloudClient

/-!
# The codecs of a registry along a row of calls

Calls have numbers, from 0.

* `eraseDups_concat` — a list without its repetitions, from item to item;
* `Registry.Numbered` — no two formats share the serial number of their codecs, and the next number
  is a new one; `Registry.Numbered.extend` and `Registry.Numbered.call` keep this;
* `Registry.Opens`, `Registry.opens_of_build` — a registry as it comes from the codecs given to it;
* `Registry.after` — the registry after the first calls of a row;
* `Registry.mark?_after_of_call`, `Registry.isSome_mark?_finalState_iff`,
  `Registry.formats_finalState` — which codecs and which formats it has then;
* `calls_share_codec_of_format` — all this together.
-/

section EraseDups

variable {α : Type} [DecidableEq α]

/-- An item at the end counts if it is new. -/
theorem eraseDups_concat (items : List α) (item : α) : (items ++ [item]).eraseDups
    = if item ∈ items then items.eraseDups else items.eraseDups ++ [item] := by
  rw [List.eraseDups_append]
  by_cases old : item ∈ items
  · rw [if_pos old]
    simp [List.removeAll, old]
  · rw [if_neg old]
    simp [List.removeAll, old, List.eraseDups_cons]

/-- Without repetitions a list stays as it is. -/
theorem eraseDups_of_nodup {items : List α} (nodup : items.Nodup) : items.eraseDups = items := by
  induction items with
  | nil => rfl
  | cons item items ih =>
    rw [List.nodup_cons] at nodup
    have others : items.filter (fun other => !other == item) = items := by
      rw [List.filter_eq_self]
      intro other mem
      have differ : other ≠ item := fun same => nodup.1 (same ▸ mem)
      simpa using differ
    rw [List.eraseDups_cons, others, ih nodup.2]

end EraseDups

/-! ### Codecs given for formats -/

section Mapping

variable {α : Type} {key : WireFormat} {value : α} {entries given : List (WireFormat × α)}

/-- A new key goes to the end. -/
theorem putEntry_of_notMem (new : key ∉ entries.map Prod.fst) :
    putEntry key value entries = entries ++ [(key, value)] := by
  induction entries with
  | nil => rfl
  | cons entry entries ih =>
    rw [List.map_cons, List.mem_cons, not_or] at new
    rw [putEntry, if_neg (Ne.symm new.1), ih new.2, List.cons_append]

/-- New keys go to the end one after the other. -/
theorem foldl_putEntry (mapping : ((entries ++ given).map Prod.fst).Nodup) :
    given.foldl (fun entries (f, c) => putEntry f c entries) entries = entries ++ given := by
  induction given generalizing entries with
  | nil => rw [List.foldl_nil, List.append_nil]
  | cons entry given ih =>
    have split : entries ++ entry :: given = entries ++ [entry] ++ given := by
      rw [List.append_assoc, List.singleton_append]
    rw [List.map_append, List.map_cons, List.nodup_append] at mapping
    have new : entry.1 ∉ entries.map Prod.fst := fun old =>
      mapping.2.2 _ old _ List.mem_cons_self rfl
    rw [List.foldl_cons, split, ← ih, ← putEntry_of_notMem new]
    rw [← split, List.map_append, List.map_cons, List.nodup_append]
    exact mapping

/-- An entry with a new key at the end is found under this key and under no other one. -/
theorem lookup_concat (new : key ∉ entries.map Prod.fst) (other : WireFormat) :
    (entries ++ [(key, value)]).lookup other
      = if other = key then some value else entries.lookup other := by
  rw [List.lookup_append]
  by_cases same : other = key
  · subst same
    have none_yet : entries.lookup other = none := by
      rw [List.lookup_eq_none_iff]
      intro entry mem
      rw [bne_iff_ne]
      rintro rfl
      exact new (List.mem_map_of_mem mem)
    rw [if_pos rfl, none_yet, Option.none_or, List.lookup_cons_self]
  · rw [if_neg same, List.lookup_cons, beq_eq_false_iff_ne.mpr same]
    exact Option.or_none

end Mapping

namespace Registry

variable {r s : Registry} {F G : WireFormat} {service : Service} {codec : Option (Codec Service)}
  {given : List (WireFormat × Option (Codec Service))}

/-- Codecs given for different formats stay as they are. -/
theorem collect_of_nodup (mapping : (given.map Prod.fst).Nodup) : collect given = given :=
  foldl_putEntry mapping

/-! ### Serial numbers -/

/-- The codecs of different formats have different serial numbers, and the next one is new. -/
structure Numbered (r : Registry) : Prop where
  serial_lt : ∀ F k, r.mark? F = some k → k.serial < r.next
  format_eq : ∀ F G j k, r.mark? F = some j → r.mark? G = some k → j.serial = k.serial → F = G

/-- The registry is changed for one format, which gets a codec with the next number or none. -/
theorem Numbered.extend {new : Option CodecMark} (numbered : r.Numbered)
    (marks : ∀ G, s.mark? G = if G = F then new else r.mark? G) (grows : r.next ≤ s.next)
    (next : ∀ k, new = some k → k.serial = r.next ∧ r.next < s.next) : s.Numbered := by
  refine ⟨?_, ?_⟩
  · intro G k has
    rw [marks] at has
    by_cases here : G = F
    · rw [if_pos here] at has
      obtain ⟨serial, lt⟩ := next k has
      rwa [serial]
    · rw [if_neg here] at has
      exact Nat.lt_of_lt_of_le (numbered.serial_lt G k has) grows
  · intro G H j k first second same
    rw [marks] at first second
    -- The new number is not one of the numbers of other formats.
    by_cases hereG : G = F <;> by_cases hereH : H = F
    · exact hereG.trans hereH.symm
    · rw [if_pos hereG] at first
      rw [if_neg hereH] at second
      rw [(next j first).1] at same
      exact absurd same.symm (Nat.ne_of_lt (numbered.serial_lt H k second))
    · rw [if_neg hereG] at first
      rw [if_pos hereH] at second
      rw [(next k second).1] at same
      exact absurd same (Nat.ne_of_lt (numbered.serial_lt G j first))
    · rw [if_neg hereG] at first
      rw [if_neg hereH] at second
      exact numbered.format_eq G H j k first second same

/-- The numbers do not depend on what goes on inside the services. -/
theorem Numbered.of_alike (numbered : r.Numbered) (alike : r.Alike s) : s.Numbered := by
  refine ⟨?_, ?_⟩
  · rw [alike.mark?_eq, alike.next_eq]
    exact numbered.serial_lt
  · rw [alike.mark?_eq]
    exact numbered.format_eq

/-- A codec that the registry makes gets the next number. -/
theorem Numbered.made (numbered : r.Numbered) (F : WireFormat) : (r.made F).Numbered := by
  refine numbered.extend (r.mark?_made F) (Nat.le_succ r.next) ?_
  rintro k ⟨⟩
  exact ⟨rfl, Nat.lt_succ_self r.next⟩

/-- A call keeps the numbers apart. -/
theorem Numbered.call (numbered : r.Numbered) (call : RegistryCall) : (r.call call).1.Numbered := by
  rcases r.call_cases call with ⟨served, -, alike, -⟩ | ⟨-, alike, -⟩
  · exact numbered.of_alike alike
  · exact (numbered.made call.format).of_alike alike

/-! ### A registry before its first call -/

/-- What becomes of a codec given for a format. -/
theorem eq_of_accept (accepted : r.accept F codec = .ok s) :
    s = ⟨r.service, r.entries ++ [(F, codec.map (.given r.next))],
      r.next + if codec.isSome then 1 else 0⟩ := by
  cases codec with
  | none => exact (Except.ok.inj accepted).symm
  | some c =>
    cases c with
    | plain => exact (Except.ok.inj accepted).symm
    | dated c =>
      simp only [accept, Codec.label?, Codec.labelBy?] at accepted
      split at accepted
      · exact (Except.ok.inj accepted).symm
      · exact absurd accepted (by simp)

/-- A codec given for a new format is kept for it. -/
theorem kept?_of_accept (accepted : r.accept F codec = .ok s) (new : F ∉ r.formats)
    (G : WireFormat) :
    s.kept? G = if G = F then codec.map (.given r.next) else r.kept? G := by
  obtain rfl := eq_of_accept accepted
  show ((r.entries ++ [(F, _)]).lookup G).join = _
  rw [lookup_concat new]
  by_cases same : G = F
  · rw [if_pos same, if_pos same]
    rfl
  · rw [if_neg same, if_neg same]
    rfl

theorem mark?_of_accept (accepted : r.accept F codec = .ok s) (new : F ∉ r.formats)
    (G : WireFormat) :
    s.mark? G = if G = F then codec.map fun _ => ⟨false, r.next⟩ else r.mark? G := by
  rw [mark?, kept?_of_accept accepted new]
  by_cases same : G = F
  · rw [if_pos same, if_pos same]
    cases codec with
    | none => rfl
    | some c => exact congrArg some (Served.mark_given r.next c)
  · rw [if_neg same, if_neg same]
    rfl

/-- The registry is over the service, and it has the given codecs for their formats and no
    others. -/
structure Opens (r : Registry) (service : Service)
    (given : List (WireFormat × Option (Codec Service))) : Prop where
  service_eq : r.service = service
  formats_eq : r.formats = given.map Prod.fst
  numbered : r.Numbered
  isSome_mark? : ∀ F, (r.mark? F).isSome = (given.lookup F).join.isSome

theorem opens_ofService (service : Service) : (ofService service).Opens service [] := by
  refine ⟨rfl, rfl, ⟨?_, ?_⟩, fun F => rfl⟩
  · rintro F k ⟨⟩
  · rintro F G j k ⟨⟩

/-- One more codec. -/
theorem Opens.accept (opens : r.Opens service given) (new : F ∉ given.map Prod.fst)
    (accepted : r.accept F codec = .ok s) : s.Opens service (given ++ [(F, codec)]) := by
  have marks := mark?_of_accept accepted (opens.formats_eq ▸ new)
  have fields := eq_of_accept accepted
  refine ⟨?_, ?_, ?_, ?_⟩
  · rw [fields, opens.service_eq]
  · rw [fields, List.map_append, ← opens.formats_eq]
    exact List.map_append
  · refine opens.numbered.extend marks ?_ ?_
    · rw [fields]
      exact Nat.le_add_right r.next _
    · rintro k found
      obtain ⟨c, rfl, rfl⟩ := Option.map_eq_some_iff.mp found
      rw [fields]
      exact ⟨rfl, Nat.lt_succ_self r.next⟩
  · intro G
    rw [marks, lookup_concat new]
    by_cases same : G = F
    · rw [if_pos same, if_pos same, Option.isSome_map]
      rfl
    · rw [if_neg same, if_neg same, opens.isSome_mark?]

/-- The codecs are taken over one after the other, so those taken over grow at the end. -/
theorem accept_induction {motive : List (WireFormat × Option (Codec Service)) → Registry → Prop}
    {rest : List (WireFormat × Option (Codec Service))} (start : motive given r)
    (step : ∀ given r F codec s, F ∉ given.map Prod.fst → r.accept F codec = .ok s →
      motive given r → motive (given ++ [(F, codec)]) s)
    (mapping : ((given ++ rest).map Prod.fst).Nodup)
    (built : rest.foldlM (fun r (f, c) => r.accept f c) r = .ok s) :
    motive (given ++ rest) s := by
  induction rest generalizing given r with
  | nil =>
    obtain rfl := Except.ok.inj built
    rwa [List.append_nil]
  | cons entry rest ih =>
    obtain ⟨F, codec⟩ := entry
    rw [List.foldlM_cons] at built
    dsimp only at built
    have split : given ++ (F, codec) :: rest = given ++ [(F, codec)] ++ rest := by
      rw [List.append_assoc, List.singleton_append]
    cases accepted : r.accept F codec with
    | error e =>
      rw [accepted] at built
      cases built
    | ok next =>
      rw [accepted] at built
      have new : F ∉ given.map Prod.fst := by
        rw [List.map_append, List.map_cons, List.nodup_append] at mapping
        exact fun old => mapping.2.2 _ old _ List.mem_cons_self rfl
      rw [split] at mapping ⊢
      exact ih (step given r F codec next new accepted start) mapping built

/-- A registry that could be built has what was given to it. -/
theorem opens_of_build (mapping : (given.map Prod.fst).Nodup)
    (built : build service given = .ok r) : r.Opens service given := by
  rw [build, collect_of_nodup mapping] at built
  exact accept_induction (motive := fun given r => r.Opens service given) (opens_ofService service)
    (fun _ _ _ _ _ new accepted opens => opens.accept new accepted) mapping built

/-! ### From call to call -/

variable {calls : List RegistryCall} {call : RegistryCall} {k : CodecMark} {m n : Nat}

/-- The registry after the first calls of a row. -/
def after (r : Registry) (calls : List RegistryCall) (n : Nat) : Registry :=
  finalState Registry.call r (calls.take n)

theorem after_succ (here : calls[n]? = some call) :
    r.after calls (n + 1) = ((r.after calls n).call call).1 :=
  finalState_take_succ Registry.call r here

/-- The answer to the call with a number, and the registry after it. -/
theorem getElem?_history_call (here : calls[n]? = some call) :
    (history Registry.call r calls)[n]? = some ((r.after calls n).call call) := by
  rw [getElem?_history, here]
  rfl

/-- The serial numbers stay apart. -/
theorem Numbered.after (numbered : r.Numbered) (calls : List RegistryCall) (n : Nat) :
    (r.after calls n).Numbered :=
  finalState_induction numbered (fun _ call numbered => numbered.call call) (calls.take n)

/-- The service stays of its kind. -/
theorem kind_after (r : Registry) (calls : List RegistryCall) (n : Nat) :
    (r.after calls n).service.kind = r.service.kind := by
  refine finalState_induction (motive := fun s : Registry => s.service.kind = r.service.kind)
    rfl ?_ _
  intro s call same
  rw [kind_call, same]

/-- A codec that is kept stays. -/
theorem mark?_after_mono (le : m ≤ n) (has : (r.after calls m).mark? F = some k) :
    (r.after calls n).mark? F = some k := by
  refine finalState_take_induction (motive := fun s : Registry => s.mark? F = some k) le has ?_
  intro j call _ _ _ has
  exact mark?_call_of_some call has

/-- The codec that a call works with is kept from then on. -/
theorem mark?_after_of_call (here : calls[m]? = some call) (lt : m < n) :
    (r.after calls n).mark? call.format = some ((r.after calls m).codec call.format).mark := by
  apply mark?_after_mono lt
  rw [Nat.succ_eq_add_one, after_succ here]
  exact mark?_call_self _ call

/-- A format has a codec if it had one before the first call, or if there was a call for it. -/
theorem isSome_mark?_finalState_iff (r : Registry) (calls : List RegistryCall) (F : WireFormat) :
    ((finalState Registry.call r calls).mark? F).isSome = true ↔
      (r.mark? F).isSome = true ∨ F ∈ calls.map RegistryCall.format := by
  induction calls using List.reverseRecOn with
  | nil => simp
  | append_singleton calls call ih =>
    rw [finalState_append, finalState_cons, finalState_nil, isSome_mark?_call_iff, ih, or_assoc]
    simp

/-- The formats are those before the first call, and then those that there were calls for, in the
    order of the first of these calls. -/
theorem formats_finalState (nodup : r.formats.Nodup) (calls : List RegistryCall) :
    (finalState Registry.call r calls).formats
      = (r.formats ++ calls.map RegistryCall.format).eraseDups := by
  induction calls using List.reverseRecOn with
  | nil =>
    rw [List.map_nil, List.append_nil, eraseDups_of_nodup nodup]
    rfl
  | append_singleton calls call ih =>
    rw [finalState_append, finalState_cons, finalState_nil, formats_call, ih, List.map_append,
      List.map_singleton, ← List.append_assoc, eraseDups_concat]
    simp only [List.mem_eraseDups]

/-- The formats that there are stay in their places. -/
theorem formats_after_succ (r : Registry) (calls : List RegistryCall) (n : Nat) :
    (r.after calls n).formats <+: (r.after calls (n + 1)).formats := by
  cases here : calls[n]? with
  | none =>
    have same : r.after calls (n + 1) = r.after calls n := finalState_take_succ_of_none _ r here
    simp only [same, List.prefix_rfl]
  | some call =>
    rw [after_succ here, formats_call]
    split
    · exact List.prefix_rfl
    · exact List.prefix_append _ _

end Registry

/-- Whatever codecs were given for formats to a new registry over a service, and whatever calls
    follow: a call that has a codec handed out succeeds, and all calls for a format work with the
    same codec.  A codec that the registry made differs from those for other formats.  The formats
    with an entry are the given ones in their order, then every other one in the order of the first
    calls, and they only grow at the end.  That a codec was made is reported by the first call for
    its format, unless a codec was given for it, and by no other call. -/
theorem calls_share_codec_of_format (service : Service)
    (given : List (WireFormat × Option (Codec Service)))
    (mapping : (given.map Prod.fst).Nodup) (r : Registry)
    (built : Registry.build service given = .ok r) (calls : List RegistryCall) :
    (∀ n call, calls[n]? = some call →
      ∃ o, (history Registry.call r calls)[n]? = some (r.after calls (n + 1), o) ∧
        (call.handsOut = true → ∃ label,
          o.result = .ok (.codec ((r.after calls n).codec call.format) label)) ∧
        o.events.filter Event.isCodecCreated =
          if (given.lookup call.format).join.isSome ∨
              call.format ∈ (calls.take n).map RegistryCall.format then []
          else [.codecCreated call.format ⟨true, call.format, service.kind⟩]) ∧
    (∀ m n c d, calls[m]? = some c → calls[n]? = some d → c.format = d.format →
      ((r.after calls m).codec c.format).mark = ((r.after calls n).codec d.format).mark) ∧
    (∀ m n c d, calls[m]? = some c → calls[n]? = some d → c.format ≠ d.format →
      ((r.after calls m).codec c.format).mark.made = true →
      ((r.after calls m).codec c.format).serial ≠ ((r.after calls n).codec d.format).serial) ∧
    (∀ n, (r.after calls n).formats
      = (given.map Prod.fst ++ (calls.take n).map RegistryCall.format).eraseDups) ∧
    (∀ n, (r.after calls n).formats <+: (r.after calls (n + 1)).formats) ∧
    ∀ format kind,
      let created := Event.codecCreated format ⟨true, format, kind⟩
      created.level = .info ∧ created.source = "cloudkit.date.codec_factory" ∧
        created.message = "Created " ++ format.name ++ " codec: " ++ format.codecName ++
          "(wire_format=" ++ format.name ++ ", date_service=" ++ kind.name ++ ")" := by
  have opens := Registry.opens_of_build mapping built
  -- After two calls the codecs of both are kept.
  have kept_by_both {m n : Nat} {c d : RegistryCall} (first : calls[m]? = some c)
      (second : calls[n]? = some d) := And.intro
    (Registry.mark?_after_of_call (r := r) first (Nat.lt_succ_of_le (Nat.le_max_left m n)))
    (Registry.mark?_after_of_call (r := r) second (Nat.lt_succ_of_le (Nat.le_max_right m n)))
  refine ⟨?_, ?_, ?_, ?_, r.formats_after_succ calls,
    fun format kind => ⟨rfl, rfl, Event.message_codecCreated format kind⟩⟩
  · intro n call here
    refine ⟨((r.after calls n).call call).2, ?_, Registry.result_call_of_handsOut _, ?_⟩
    · rw [Registry.getElem?_history_call here, Registry.after_succ here]
    · show ((r.after calls n).call call).2.creations = _
      rw [Registry.creations_call, Registry.kind_after, opens.service_eq, ← opens.isSome_mark?]
      exact if_congr (Registry.isSome_mark?_finalState_iff r _ _) rfl rfl
  · intro m n c d first second same
    obtain ⟨kept, kept'⟩ := kept_by_both first second
    rw [same] at kept ⊢
    exact Option.some.inj (kept.symm.trans kept')
  · intro m n c d first second differ _ same
    obtain ⟨kept, kept'⟩ := kept_by_both first second
    have numbered := opens.numbered.after calls (max m n + 1)
    rw [← Served.serial_mark, ← Served.serial_mark] at same
    exact differ (numbered.format_eq _ _ _ _ kept kept' same)
  · intro n
    rw [Registry.after, Registry.formats_finalState (opens.formats_eq ▸ mapping), opens.formats_eq]

/-- A format was given without a codec, another one with a codec, and a third one comes with a use
    that fails: the first keeps its place, and only the first and the third get a new codec. -/
theorem calls_share_codec_given_nothing :
    let given : List (WireFormat × Option (Codec Service)) :=
      [(.rfc822, none), (.iso8601, some .plain)]
    let calls : List RegistryCall :=
      [.use "a" .asctime (.error .beyondCalendar), .accessor .rfc822, .codecFor .iso8601,
       .codecFor .rfc822]
    (given.map Prod.fst).Nodup ∧
    ∃ r, Registry.build (.simple ⟨69, by decide⟩) given = .ok r ∧
      ((r.after calls 1).codec .rfc822).mark = ((r.after calls 3).codec .rfc822).mark ∧
      ((r.after calls 1).codec .rfc822).serial ≠ ((r.after calls 0).codec .asctime).serial ∧
      (r.after calls 4).formats = [.rfc822, .iso8601, .asctime] ∧
      (∃ o, (history Registry.call r calls)[1]? = some (r.after calls 2, o) ∧
        o.events.filter Event.isCodecCreated = [.codecCreated .rfc822 ⟨true, .rfc822, .simple⟩]) ∧
      ∃ o, (history Registry.call r calls)[2]? = some (r.after calls 3, o) ∧
        o.events.filter Event.isCodecCreated = [] := by
  intro given calls
  have mapping : (given.map Prod.fst).Nodup := by decide
  have built : Registry.build (.simple ⟨69, by decide⟩) given
      = .ok ⟨.simple ⟨69, by decide⟩, [(.rfc822, none), (.iso8601, some (.given 0 .plain))], 1⟩ :=
    rfl
  obtain ⟨reports, same, differ, formats, -⟩ :=
    calls_share_codec_of_format _ given mapping _ built calls
  refine ⟨mapping, _, built, same 1 3 _ _ rfl rfl rfl, differ 1 0 _ _ rfl rfl (by decide) rfl,
    formats 4, ?_, ?_⟩
  · obtain ⟨o, there, -, creations⟩ := reports 1 _ rfl
    exact ⟨o, there, creations⟩
  · obtain ⟨o, there, -, creations⟩ := reports 2 _ rfl
    exact ⟨o, there, creations⟩

end CloudClient
