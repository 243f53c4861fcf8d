import GameShelf.Csv.Row
import GameShelf.Error

/-!
# Tables of games

Where the games of a collection come from: the bytes of a table, or a path.  The first record of a
table is the header and each further one a game.  Loading is all or nothing: the first record with a
fault ends it.  Whatever is wrong with the bytes or with the path is an error of loading.
-/

set_option autoImplicit false

namespace GameShelf

/-! ## Records -/

namespace Csv

/-- The game of a record, or its fault with the record's position. -/
def Header.readRecord (header : Header) (record : Record) : Except Fault Game :=
  (header.readFields record.fields).mapError fun cause => ⟨record.start, cause⟩

/-- The games of a list of records. -/
def Header.readRecords (header : Header) : List Record → Except Fault (List Game)
  | [] => .ok []
  | record :: rest => do
    let game ← header.readRecord record
    let games ← header.readRecords rest
    return game :: games

/-- The games of a table; an empty text is a table without games. -/
def loadGames (bytes : Bytes) : Except Fault (List Game) :=
  match records bytes with
  | [] => .ok []
  | header :: rows => (Header.ofFields header.fields).readRecords rows

end Csv

/-! ## Tables -/

namespace Table

/-- The games of the table with these bytes. -/
def load (bytes : Bytes) : Except Error (List Game) :=
  (Csv.loadGames bytes).mapError .notLoaded

/-- The games of the table at a path, which the stand-in `Storage` has no file for. -/
def loadPath (path : Text) : Except Error (List Game) := do
  let bytes ← (Storage.read path).mapError .notOpened
  load bytes

end Table
end GameShelf
