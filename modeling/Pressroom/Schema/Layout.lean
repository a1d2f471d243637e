import Pressroom.Schema.Basic

/-!
The two ways in which the tables of the content store come to be: when the service starts, it
creates whatever is missing; and the first migration creates them all, or drops them again.
-/
namespace Pressroom

namespace Schema

/-- The columns at the end of every table, of the given type. -/
def timeColumns (type : String) : List Column :=
  [.plain "created_at" type, .plain "updated_at" type, .plain "deleted_at" type]

/-- The indexes that only help to search, by table. -/
def searchIndexes : String → List Index
  | "users" => [.search "idx_users_deleted_at" "users" "deleted_at"]
  | "posts" =>
    [.search "idx_posts_title" "posts" "title", .search "idx_posts_author_id" "posts" "author_id",
      .search "idx_posts_deleted_at" "posts" "deleted_at"]
  | "api_keys" =>
    [.search "idx_api_keys_owner_email" "api_keys" "owner_email",
      .search "idx_api_keys_expires_at" "api_keys" "expires_at",
      .search "idx_api_keys_deleted_at" "api_keys" "deleted_at"]
  | _ => []

/-- The index that keeps the addresses of live users apart; deleted users keep theirs. -/
def emailIndex (collation : Collation) : Index :=
  ⟨"idx_users_email", "users", ["email"], collation, true, true⟩

namespace Startup

def id : Column := ⟨"id", "TEXT", false, none, true⟩

def users : TableShape where
  name := "users"
  columns :=
    [id, .filled "fullname" "TEXT", .filled "email" "TEXT", .filled "password" "TEXT",
      ⟨"permissions", "INTEGER", true, some "0", false⟩] ++ timeColumns "TIMESTAMP"
  unique := []

def posts : TableShape where
  name := "posts"
  columns :=
    [id, .plain "type" "TEXT", .plain "body" "TEXT", .plain "title" "TEXT",
      .plain "author_id" "TEXT"] ++ timeColumns "TIMESTAMP"
  unique := []

def keys : TableShape where
  name := "api_keys"
  columns :=
    [id, .plain "key" "TEXT", .plain "owner_email" "TEXT", .plain "expires_at" "INTEGER"]
      ++ timeColumns "TIMESTAMP"
  unique := [["key"]]

/-- What the service creates when it starts. -/
def statements : List Statement :=
  [.createTable true users, .createTable true posts, .createTable true keys]
    ++ (emailIndex .noCase :: ["users", "posts", "api_keys"].flatMap searchIndexes).map
      (.createIndex true)

end Startup

namespace Migration

def revision : String := "001"

def id : Column := ⟨"id", "VARCHAR(36)", true, none, true⟩

def users : TableShape where
  name := "users"
  columns :=
    [id, .filled "fullname" "TEXT", .filled "email" "VARCHAR(100)", .filled "password" "TEXT",
      ⟨"permissions", "BIGINT", true, some "'0'", false⟩] ++ timeColumns "DATETIME"
  unique := []

def posts : TableShape where
  name := "posts"
  columns :=
    [id, .plain "type" "VARCHAR(100)", .plain "body" "TEXT", .plain "title" "VARCHAR(255)",
      .plain "author_id" "VARCHAR(36)"] ++ timeColumns "DATETIME"
  unique := []

def keys : TableShape where
  name := "api_keys"
  columns :=
    [id, .plain "key" "VARCHAR(64)", .plain "owner_email" "VARCHAR(100)",
      .plain "expires_at" "BIGINT"] ++ timeColumns "DATETIME"
  unique := [["key"]]

/-- Creates the tables, of which none may exist. -/
def upgrade : List Statement :=
  .createTable false users :: .createIndex false (emailIndex .exact) ::
    (searchIndexes "users").map (.createIndex false)
    ++ .createTable false posts :: (searchIndexes "posts").map (.createIndex false)
    ++ .createTable false keys :: (searchIndexes "api_keys").map (.createIndex false)

/-- Drops the tables, all of which have to exist. -/
def downgrade : List Statement := [.dropTable "api_keys", .dropTable "posts", .dropTable "users"]

end Migration

end Schema

end Pressroom
