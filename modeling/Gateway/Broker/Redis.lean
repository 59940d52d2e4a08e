import Gateway.Foundation.HashTable
import Gateway.Foundation.IncreasingLog
import Gateway.Foundation.Text

namespace Gateway
namespace Broker

open Foundation

/-!
# Stream entries and the replies of XREAD

A stream is a list of entries with increasing ids.  A reply nests the entries
it carries in arrays of byte strings, and the consumer parses it back, skipping
every piece of another shape.
-/

/-- Milliseconds and a sequence number, compared in this order. -/
abbrev EntryId := Nat ×ₗ Nat

namespace EntryId

def text (id : EntryId) : String := (ofLex id).1.repr ++ "-" ++ (ofLex id).2.repr

theorem text_inj {left right : EntryId} (same : left.text = right.text) : left = right := by
  rcases dashed_inj same with ⟨sameTime, sameSequence⟩
  exact ofLex.injective (Prod.ext sameTime sameSequence)

/-- The text of an id is never the symbol for the end of the stream. -/
theorem text_ne_dollar (id : EntryId) : id.text ≠ "$" := by
  intro same
  have dash : '-' ∈ id.text.toList := by
    rw [text, String.toList_append, String.toList_append]
    exact List.mem_append_left _ (List.mem_append_right _ (by decide))
  rw [same] at dash
  exact absurd dash (by decide)

end EntryId

structure StreamEntry where
  id : EntryId
  fields : List (ByteArray × ByteArray)

/-- The id of an empty stream. -/
def streamBottom : EntryId := toLex (0, 0)

abbrev lastStreamId (stream : List StreamEntry) : EntryId :=
  lastEntryId StreamEntry.id streamBottom stream

abbrev streamAfter (start : EntryId) (stream : List StreamEntry) : List StreamEntry :=
  entriesAfter StreamEntry.id start stream

inductive RedisValue where
  | nil
  | int (value : Int)
  | data (bytes : ByteArray)
  | bulk (items : List RedisValue)
  | status (text : String)
  | okay

/-- The fields of an entry after parsing. -/
abbrev FieldMap := HashTable String String

/-- An entry as the consumer sees it. -/
abbrev ParsedEntry := String × FieldMap

/-- Read keys and values in turn.  A pair that is not made of byte strings is
skipped, and a later value for the same key wins. -/
def parseFields (fields : FieldMap) : List RedisValue -> FieldMap
  | .data key :: .data value :: rest =>
      parseFields (fields.insert (fromUtf8Lossy key) (fromUtf8Lossy value)) rest
  | _ :: _ :: rest => parseFields fields rest
  | _ => fields

def parseEntry : RedisValue -> Option ParsedEntry
  | .bulk [.data id, .bulk fields] => some (fromUtf8Lossy id, parseFields ∅ fields)
  | _ => none

def parseStream : RedisValue -> Option (String × List ParsedEntry)
  | .bulk [.data name, .bulk entries] =>
      some (fromUtf8Lossy name, entries.filterMap parseEntry)
  | _ => none

def parseXread (debug : RedisValue -> String) :
    RedisValue -> Except String (List (String × List ParsedEntry))
  | .nil => .ok []
  | .bulk streams => .ok (streams.filterMap parseStream)
  | other => .error ("unexpected redis value: " ++ debug other)

def StreamEntry.encode (entry : StreamEntry) : RedisValue :=
  .bulk
    [.data entry.id.text.toUTF8,
      .bulk (entry.fields.flatMap fun field => [.data field.1, .data field.2])]

/-- The reply that carries a batch of one stream. -/
def encodeBatch (name : String) (entries : List StreamEntry) : RedisValue :=
  .bulk [.bulk [.data name.toUTF8, .bulk (entries.map StreamEntry.encode)]]

def StreamEntry.view (entry : StreamEntry) : ParsedEntry :=
  (entry.id.text,
    entry.fields.foldl
      (fun fields field => fields.insert (fromUtf8Lossy field.1) (fromUtf8Lossy field.2)) ∅)

theorem parseFields_encoded (pairs : List (ByteArray × ByteArray)) (fields : FieldMap) :
    parseFields fields (pairs.flatMap fun field => [.data field.1, .data field.2]) =
      pairs.foldl
        (fun fields field => fields.insert (fromUtf8Lossy field.1) (fromUtf8Lossy field.2))
        fields := by
  induction pairs generalizing fields with
  | nil => rfl
  | cons pair pairs ih => exact ih _

theorem parseEntry_encode (entry : StreamEntry) : parseEntry entry.encode = some entry.view := by
  rw [StreamEntry.encode, parseEntry, fromUtf8Lossy_toUTF8, parseFields_encoded, StreamEntry.view]

theorem parseXread_encodeBatch (debug : RedisValue -> String) (name : String)
    (entries : List StreamEntry) :
    parseXread debug (encodeBatch name entries) =
      .ok [(name, entries.map StreamEntry.view)] := by
  have parsed : (entries.map StreamEntry.encode).filterMap parseEntry =
      entries.map StreamEntry.view := by
    rw [List.filterMap_map, ← List.filterMap_eq_map]
    congr 1
    funext entry
    exact parseEntry_encode entry
  rw [encodeBatch, parseXread, List.filterMap_cons_some, List.filterMap_nil]
  rw [parseStream, fromUtf8Lossy_toUTF8, parsed]

end Broker
end Gateway
