import SchemaMutation.Catalog.Source

/-!
# Catalog statements

The statements that read the catalog of a server: its identity, one row for each column and constraint, one row for
each function parameter, and one row for each column of a single table.
-/

namespace SchemaMutation.Catalog

structure Statements where
  /-- Gives one row: version, default schema and database name. -/
  identity : String
  /-- Gives one row for each column and constraint that it takes part in. -/
  columns : String
  functions : String
  /-- Gives the columns of one table; its schema and its name are bound. -/
  tableColumns : String

def Statements.postgres : Statements where
  identity := "
SELECT
    current_setting('server_version_num')::int8 AS db_version,
    current_schema()::text AS db_schema,
    current_database()::text AS db_name
"
  columns := "
SELECT
    n.nspname::text AS \"schema\",
    c.relname::text AS \"table\",
    f.attname::text AS \"column\",
    pg_catalog.format_type(f.atttypid, f.atttypmod)::text AS \"type\",
    (CASE WHEN f.attnotnull THEN 1 ELSE 0 END)::int8 AS not_null,
    (CASE WHEN co.contype = 'p' THEN 1 ELSE 0 END)::int8 AS primary_key,
    (CASE WHEN co.contype = 'u' THEN 1 ELSE 0 END)::int8 AS unique_key,
    (CASE WHEN f.attndims <> 0 OR t.typcategory = 'A' THEN 1 ELSE 0 END)::int8 AS is_array,
    (CASE WHEN t.typname = 'tsvector' THEN 1 ELSE 0 END)::int8 AS full_text,
    COALESCE(CASE WHEN co.contype = 'f' THEN (
        SELECT n2.nspname::text
        FROM pg_catalog.pg_class c2
        JOIN pg_catalog.pg_namespace n2 ON n2.oid = c2.relnamespace
        WHERE c2.oid = co.confrelid) END, '') AS fkey_schema,
    COALESCE(CASE WHEN co.contype = 'f' THEN (
        SELECT c2.relname::text
        FROM pg_catalog.pg_class c2
        WHERE c2.oid = co.confrelid) END, '') AS fkey_table,
    COALESCE(CASE WHEN co.contype = 'f' THEN (
        SELECT a2.attname::text
        FROM pg_catalog.pg_attribute a2
        WHERE a2.attrelid = co.confrelid
          AND a2.attnum = co.confkey[array_position(co.conkey, f.attnum)]) END, '') AS fkey_col
FROM pg_catalog.pg_attribute f
JOIN pg_catalog.pg_class c ON c.oid = f.attrelid
JOIN pg_catalog.pg_type t ON t.oid = f.atttypid
LEFT JOIN pg_catalog.pg_namespace n ON n.oid = c.relnamespace
LEFT JOIN pg_catalog.pg_constraint co ON co.conrelid = c.oid AND f.attnum = ANY (co.conkey)
WHERE c.relkind IN ('r', 'v', 'm', 'f', 'p')
  AND n.nspname NOT IN ('information_schema', 'pg_catalog')
  AND n.nspname NOT LIKE 'pg_toast%'
  AND f.attnum > 0
  AND f.attisdropped = false
ORDER BY n.nspname, c.relname, f.attnum
"
  functions := "
SELECT
    r.routine_name::text AS func_name,
    r.specific_name::text AS func_id,
    p.data_type::text AS data_type,
    p.parameter_name::text AS param_name,
    p.ordinal_position::int8 AS param_id
FROM information_schema.routines r
JOIN information_schema.parameters p
    ON r.specific_name = p.specific_name
   AND r.specific_schema = p.specific_schema
WHERE p.specific_schema NOT IN ('information_schema', 'pg_catalog')
  AND r.routine_type = 'FUNCTION'
  AND p.parameter_mode = 'IN'
ORDER BY r.specific_name, p.ordinal_position
"
  tableColumns := "
SELECT
    col.table_schema::text AS \"schema\",
    col.table_name::text AS \"table\",
    col.column_name::text AS \"column\",
    col.ordinal_position::int8 AS ordinal,
    col.is_nullable::text AS is_nullable,
    col.data_type::text AS data_type,
    (CASE
        WHEN EXISTS (
            SELECT 1
            FROM information_schema.table_constraints tc
            JOIN information_schema.key_column_usage kcu
                ON kcu.constraint_schema = tc.constraint_schema
               AND kcu.constraint_name = tc.constraint_name
            WHERE tc.table_schema = col.table_schema
              AND tc.table_name = col.table_name
              AND kcu.column_name = col.column_name
              AND tc.constraint_type = 'PRIMARY KEY') THEN 'PRI'
        WHEN EXISTS (
            SELECT 1
            FROM information_schema.table_constraints tc
            JOIN information_schema.key_column_usage kcu
                ON kcu.constraint_schema = tc.constraint_schema
               AND kcu.constraint_name = tc.constraint_name
            WHERE tc.table_schema = col.table_schema
              AND tc.table_name = col.table_name
              AND kcu.column_name = col.column_name
              AND tc.constraint_type = 'UNIQUE') THEN 'UNI'
        ELSE ''
    END)::text AS column_key
FROM information_schema.columns col
WHERE col.table_schema = $1
  AND col.table_name = $2
ORDER BY col.ordinal_position
"

def Statements.mysql : Statements where
  identity := "
SELECT
    CAST(
        SUBSTRING_INDEX(VERSION(), '.', 1) * 10000
        + SUBSTRING_INDEX(SUBSTRING_INDEX(VERSION(), '.', 2), '.', -1) * 100
        + CAST(SUBSTRING_INDEX(SUBSTRING_INDEX(SUBSTRING_INDEX(VERSION(), '-', 1), '.', 3), '.', -1) AS UNSIGNED)
    AS SIGNED) AS db_version,
    DATABASE() AS db_schema,
    DATABASE() AS db_name
"
  columns := "
SELECT
    col.table_schema AS `schema`,
    col.table_name AS `table`,
    col.column_name AS `column`,
    col.data_type AS `type`,
    CAST(col.is_nullable = 'NO' AS SIGNED) AS not_null,
    CAST(COALESCE(tc.constraint_type = 'PRIMARY KEY', 0) AS SIGNED) AS primary_key,
    CAST(COALESCE(tc.constraint_type = 'UNIQUE', 0) AS SIGNED) AS unique_key,
    CAST(0 AS SIGNED) AS is_array,
    CAST(EXISTS (
        SELECT 1 FROM information_schema.statistics s
        WHERE s.table_schema = col.table_schema
          AND s.table_name = col.table_name
          AND s.column_name = col.column_name
          AND s.index_type = 'FULLTEXT') AS SIGNED) AS full_text,
    COALESCE(kcu.referenced_table_schema, '') AS fkey_schema,
    COALESCE(kcu.referenced_table_name, '') AS fkey_table,
    COALESCE(kcu.referenced_column_name, '') AS fkey_col
FROM information_schema.columns col
LEFT JOIN information_schema.key_column_usage kcu
    ON kcu.table_schema = col.table_schema
   AND kcu.table_name = col.table_name
   AND kcu.column_name = col.column_name
LEFT JOIN information_schema.table_constraints tc
    ON tc.constraint_schema = kcu.constraint_schema
   AND tc.constraint_name = kcu.constraint_name
   AND tc.table_name = kcu.table_name
WHERE col.table_schema NOT IN ('information_schema', 'performance_schema', 'mysql', 'sys')
ORDER BY col.table_schema, col.table_name, col.ordinal_position
"
  functions := "
SELECT
    r.routine_name AS func_name,
    CONCAT(r.routine_schema, '.', r.specific_name) AS func_id,
    p.data_type AS data_type,
    p.parameter_name AS param_name,
    CAST(p.ordinal_position AS SIGNED) AS param_id
FROM information_schema.routines r
JOIN information_schema.parameters p
    ON r.specific_name = p.specific_name
   AND r.routine_schema = p.specific_schema
WHERE p.specific_schema NOT IN ('information_schema', 'performance_schema', 'mysql', 'sys')
  AND r.routine_type = 'FUNCTION'
  AND p.parameter_mode = 'IN'
ORDER BY r.routine_schema, r.specific_name, p.ordinal_position
"
  tableColumns := "
SELECT
    TABLE_SCHEMA AS `schema`,
    TABLE_NAME AS `table`,
    COLUMN_NAME AS `column`,
    CAST(ORDINAL_POSITION AS SIGNED) AS ordinal,
    IS_NULLABLE AS is_nullable,
    DATA_TYPE AS data_type,
    COLUMN_KEY AS column_key
FROM information_schema.columns
WHERE TABLE_SCHEMA = ?
  AND TABLE_NAME = ?
ORDER BY ORDINAL_POSITION
"

def Engine.statements : Engine → Statements
  | .postgres => .postgres
  | .mysql => .mysql

end SchemaMutation.Catalog
