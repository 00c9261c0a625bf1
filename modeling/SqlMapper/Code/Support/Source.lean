/-!
The support source, which implements the support header.
-/
namespace SqlMapper.Code.Support

def sourceLines : List String := [
  "#include \"yb_common.h\"",
  "",
  "#include <assert.h>",
  "#include <ctype.h>",
  "#include <malloc.h>",
  "#include <pthread.h>",
  "#include <stdio.h>",
  "#include <string.h>",
  "",
  "#ifndef YB_STRING_FLAG_OWN_DATA",
  "/// \\brief bitmask for yb_string_s::flags. If set, the yb_string_s owns the",
  "/// data, and should free it when the yb_string_s is freed.",
  "#define YB_STRING_FLAG_OWN_DATA 1",
  "#endif",
  "",
  "/**",
  " * @brief define a string type.",
  " */",
  "struct yb_string_s \x7b",
  "    //! The string data, owned if flag & YB_STRING_FLAG_OWN_DATA is set, or",
  "    //! reference if not.",
  "    const char* data;",
  "    //! The length of the string.",
  "    int64_t len;",
  "    //! The flags of the string.",
  "    //! @see YB_STRING_FLAG_XXXXX",
  "    uint32_t flag;",
  "\x7d;",
  "",
  "//! @brief the size of struct yb_string_s",
  "#define YB_STRUCT_SIZE sizeof(struct yb_string_s)",
  "",
  "yb_string_t yb_string_new() \x7b",
  "    yb_string_t s = malloc(YB_STRUCT_SIZE);",
  "    if (s == NULL) \x7b",
  "        return NULL;",
  "    \x7d",
  "    s->data = NULL;",
  "    s->len = 0;",
  "    s->flag = 0;",
  "    return s;",
  "\x7d",
  "",
  "void yb_string_clear(yb_string_t s) \x7b",
  "    if (s == NULL) \x7b",
  "        return;",
  "    \x7d",
  "    if (s->flag & YB_STRING_FLAG_OWN_DATA && s->data != NULL) \x7b",
  "        free((void*)s->data);",
  "    \x7d",
  "    s->data = NULL;",
  "    s->len = 0;",
  "    s->flag = 0;",
  "\x7d",
  "",
  "yb_string_t yb_string_from_ref(const char* str, int64_t len) \x7b",
  "    yb_string_t s = (struct yb_string_s*)malloc(YB_STRUCT_SIZE);",
  "    if (s == NULL) \x7b",
  "        return s;",
  "    \x7d",
  "    s->data = str;",
  "    s->len = len;",
  "    s->flag = 0;",
  "    return s;",
  "\x7d",
  "",
  "yb_string_t yb_string_from(const char* str, int64_t len) \x7b",
  "    char* copy = (char*)malloc(len > 0 ? len : 1);",
  "    if (copy == NULL) \x7b",
  "        return NULL;",
  "    \x7d",
  "    memcpy(copy, str, len);",
  "    yb_string_t r = yb_string_from_ref(copy, len);",
  "    if (r == NULL) \x7b",
  "        free(copy);",
  "        return NULL;",
  "    \x7d",
  "    r->flag |= YB_STRING_FLAG_OWN_DATA;",
  "    return r;",
  "\x7d",
  "",
  "void yb_string_free(yb_string_t s) \x7b",
  "    if (s == NULL) \x7b",
  "        return;",
  "    \x7d",
  "    if (s->flag & YB_STRING_FLAG_OWN_DATA && s->data != NULL) \x7b",
  "        free((void*)s->data);",
  "    \x7d",
  "    free(s);",
  "\x7d",
  "",
  "yb_string_t yb_string_from_cstr(const char* str) \x7b",
  "    return yb_string_from(str, strlen(str));",
  "\x7d",
  "",
  "yb_string_t yb_string_from_cstr_ref(const char* str) \x7b",
  "    return yb_string_from_ref(str, strlen(str));",
  "\x7d",
  "",
  "yb_string_t yb_string_clone(const yb_string_t s) \x7b",
  "    if (s == NULL) \x7b",
  "        return NULL;",
  "    \x7d",
  "    return yb_string_from(s->data, s->len);",
  "\x7d",
  "",
  "void yb_string_move(yb_string_t s, yb_string_t d) \x7b",
  "    if (s == NULL || d == NULL) \x7b",
  "        return;",
  "    \x7d",
  "",
  "    d->data = s->data;",
  "    d->len = s->len;",
  "    d->flag = s->flag;",
  "    s->data = NULL;",
  "    s->len = 0;",
  "    s->flag = 0;",
  "\x7d",
  "",
  "const char* yb_string_cstr(const yb_string_t s) \x7b",
  "    if (s == NULL || s->len == 0) \x7b",
  "        return NULL;",
  "    \x7d",
  "",
  "    char* r = (char*)malloc(s->len + 1);",
  "    if (r == NULL) \x7b",
  "        return NULL;",
  "    \x7d",
  "    memcpy(r, s->data, s->len);",
  "    r[s->len] = '\\0';",
  "    return r;",
  "\x7d",
  "",
  "int64_t yb_string_length(const yb_string_t s) \x7b",
  "    if (s == NULL) \x7b",
  "        return 0;",
  "    \x7d",
  "    return s->len;",
  "\x7d",
  "",
  "const char* yb_string_data(const yb_string_t s) \x7b",
  "    if (s == NULL) \x7b",
  "        return NULL;",
  "    \x7d",
  "    return s->data;",
  "\x7d",
  "",
  "int yb_string_set_data_from(yb_string_t s, const char* data, int64_t len) \x7b",
  "    if (s == NULL) \x7b",
  "        return YB_FAIL;",
  "    \x7d",
  "",
  "    char* p = (char*)malloc(len);",
  "    if (p == NULL) \x7b",
  "        return YB_FAIL;",
  "    \x7d",
  "    memcpy(p, data, len);",
  "",
  "    if (s->flag & YB_STRING_FLAG_OWN_DATA && s->data != NULL) \x7b",
  "        free((void*)s->data);",
  "    \x7d",
  "    s->data = p;",
  "    s->len = len;",
  "    s->flag |= YB_STRING_FLAG_OWN_DATA;",
  "",
  "    return YB_OK;",
  "\x7d",
  "",
  "int yb_string_ref_data(yb_string_t s, const char* data, int64_t len) \x7b",
  "    if (s == NULL) \x7b",
  "        return YB_FAIL;",
  "    \x7d",
  "    if (s->flag & YB_STRING_FLAG_OWN_DATA && s->data != NULL) \x7b",
  "        free((void*)s->data);",
  "    \x7d",
  "    s->data = data;",
  "    s->len = len;",
  "    s->flag &= ~YB_STRING_FLAG_OWN_DATA;",
  "    return YB_OK;",
  "\x7d",
  "",
  "int yb_string_append_data(yb_string_t s, const char* data, int64_t len) \x7b",
  "    if (len == 0) \x7b",
  "        return YB_OK;",
  "    \x7d",
  "    if (s == NULL) \x7b",
  "        return YB_FAIL;",
  "    \x7d",
  "    char* p = (char*)malloc(s->len + len);",
  "    if (p == NULL) \x7b",
  "        return YB_FAIL;",
  "    \x7d",
  "    memcpy(p, s->data, s->len);",
  "    memcpy(p + s->len, data, len);",
  "    if (s->flag & YB_STRING_FLAG_OWN_DATA && s->data != NULL) \x7b",
  "        free((void*)s->data);",
  "    \x7d",
  "    s->data = p;",
  "    s->len += len;",
  "    s->flag |= YB_STRING_FLAG_OWN_DATA;",
  "    return YB_OK;",
  "\x7d",
  "",
  "int yb_string_append_c_str(yb_string_t s, const char* str) \x7b",
  "    return yb_string_append_data(s, str, strlen(str));",
  "\x7d",
  "",
  "int yb_string_append(yb_string_t s, const yb_string_t s2) \x7b",
  "    if (s == NULL || s2 == NULL) \x7b",
  "        return YB_FAIL;",
  "    \x7d",
  "    return yb_string_append_data(s, s2->data, s2->len);",
  "\x7d",
  "",
  "yb_string_t yb_string_substr(const yb_string_t s, int64_t start, int64_t len) \x7b",
  "    if (s == NULL) \x7b",
  "        return NULL;",
  "    \x7d",
  "    if (start < 0 || len < 0 || start + len > s->len) \x7b",
  "        return NULL;",
  "    \x7d",
  "    char* p = (char*)malloc(len);",
  "    if (p == NULL) \x7b",
  "        return NULL;",
  "    \x7d",
  "    memcpy(p, s->data + start, len);",
  "    yb_string_t r = yb_string_from_ref(p, len);",
  "    if (r == NULL) \x7b",
  "        free(p);",
  "        return NULL;",
  "    \x7d",
  "    r->flag |= YB_STRING_FLAG_OWN_DATA;",
  "    return r;",
  "\x7d",
  "",
  "yb_string_t yb_string_slice(const yb_string_t s, int64_t start, int64_t len) \x7b",
  "    if (s == NULL) \x7b",
  "        return NULL;",
  "    \x7d",
  "    if (start < 0 || len < 0 || start + len > s->len) \x7b",
  "        return NULL;",
  "    \x7d",
  "    yb_string_t r = yb_string_from_ref(s->data + start, len);",
  "    if (r == NULL) \x7b",
  "        return NULL;",
  "    \x7d",
  "    r->flag = 0;",
  "    return r;",
  "\x7d",
  "",
  "int yb_string_compare(const yb_string_t s1, const yb_string_t s2) \x7b",
  "    if (s1 == NULL && s2 == NULL) \x7b",
  "        return 0;",
  "    \x7d",
  "",
  "    if (s1 == NULL) \x7b",
  "        return -1;",
  "    \x7d",
  "    if (s2 == NULL) \x7b",
  "        return 1;",
  "    \x7d",
  "",
  "    int64_t min_len = s1->len < s2->len ? s1->len : s2->len;",
  "    int cmp = memcmp(s1->data, s2->data, min_len);",
  "",
  "    if (cmp == 0) \x7b",
  "        if (s1->len < s2->len) \x7b",
  "            return -1;",
  "        \x7d else if (s1->len > s2->len) \x7b",
  "            return 1;",
  "        \x7d",
  "    \x7d",
  "    return cmp;",
  "\x7d",
  "",
  "int yb_string_compare_cstr(const yb_string_t s1, const char* s2) \x7b",
  "    if (s1 == NULL && s2 == NULL) \x7b",
  "        return 0;",
  "    \x7d",
  "    if (s1 == NULL) \x7b",
  "        return -1;",
  "    \x7d",
  "    if (s2 == NULL) \x7b",
  "        return 1;",
  "    \x7d",
  "    int64_t s2len = strlen(s2);",
  "    int64_t min_len = s1->len < s2len ? s1->len : s2len;",
  "    int cmp = memcmp(s1->data, s2, min_len);",
  "    if (cmp == 0) \x7b",
  "        if (s1->len < s2len) \x7b",
  "            return -1;",
  "        \x7d else if (s1->len > s2len) \x7b",
  "            return 1;",
  "        \x7d",
  "    \x7d",
  "    return cmp;",
  "\x7d",
  "",
  "int64_t yb_string_atoi(const yb_string_t s) \x7b",
  "    if (s == NULL) \x7b",
  "        return 0;",
  "    \x7d",
  "    char* end = (char*)s->data;",
  "    int64_t r = 0;",
  "",
  "    while (end != s->data + s->len) \x7b",
  "        if (*end < '0' || *end > '9') \x7b",
  "            break;",
  "        \x7d",
  "        r = r * 10 + *end - '0';",
  "        end++;",
  "    \x7d",
  "    return r;",
  "\x7d",
  "",
  "int yb_string_to_hex(const yb_string_t s, char* out, int64_t out_len) \x7b",
  "    if (s == NULL) \x7b",
  "        return YB_FAIL;",
  "    \x7d",
  "    if (out == NULL) \x7b",
  "        return YB_FAIL;",
  "    \x7d",
  "",
  "    int64_t i;",
  "    int64_t j = 0;",
  "    for (i = 0; i < s->len; i++) \x7b",
  "        if (j + 3 >= out_len) \x7b",
  "            break;",
  "        \x7d",
  "        const uint8_t c = (uint8_t)s->data[i];",
  "        snprintf(out + j, 3, \"%02x\", c);",
  "        j += 2;",
  "    \x7d",
  "    out[j] = '\\0';",
  "    return YB_OK;",
  "\x7d",
  "",
  "static inline int _char2int(const char c) \x7b",
  "    if (c >= '0' && c <= '9') \x7b",
  "        return c - '0';",
  "    \x7d else if (c >= 'a' && c <= 'f') \x7b",
  "        return c - 'a' + 10;",
  "    \x7d else if (c >= 'A' && c <= 'F') \x7b",
  "        return c - 'A' + 10;",
  "    \x7d",
  "    return -1;",
  "\x7d",
  "",
  "int yb_string_from_hex(yb_string_t s, const char* in, int64_t in_len) \x7b",
  "    if (s == NULL) \x7b",
  "        return YB_FAIL;",
  "    \x7d",
  "    if (in == NULL) \x7b",
  "        yb_string_clear(s);",
  "        return YB_OK;",
  "    \x7d",
  "",
  "    int64_t plen = (in_len + 1) / 2;",
  "    char* p = (char*)malloc(plen);",
  "    if (p == NULL) \x7b",
  "        return YB_FAIL;",
  "    \x7d",
  "",
  "    int64_t i = 0;",
  "    int64_t j = 0;",
  "    if (in_len % 2 != 0) \x7b",
  "        int d = _char2int(in[i]);",
  "        if (d < 0) \x7b",
  "            free(p);",
  "            return YB_FAIL;",
  "        \x7d",
  "        p[j] = in[i];",
  "        ++i;",
  "        ++j;",
  "    \x7d",
  "",
  "    while (i < in_len) \x7b",
  "        int d1 = _char2int(in[i]);",
  "        int d2 = _char2int(in[i + 1]);",
  "        if (d1 < 0 || d2 < 0) \x7b",
  "            free(p);",
  "            return YB_FAIL;",
  "        \x7d",
  "        p[j] = (char)((d1 << 4) | d2);",
  "        i += 2;",
  "        ++j;",
  "    \x7d",
  "    yb_string_ref_data(s, p, plen);",
  "    s->flag |= YB_STRING_FLAG_OWN_DATA;",
  "    return YB_OK;",
  "\x7d",
  "",
  "static int64_t yb_trim_token_match(const char* data, int64_t len,",
  "                                   const char* tokens, int at_end) \x7b",
  "    const char* tok = tokens;",
  "    while (tok != NULL && *tok != '\\0') \x7b",
  "        const char* bar = strchr(tok, '|');",
  "        int64_t tlen = bar ? (int64_t)(bar - tok) : (int64_t)strlen(tok);",
  "        if (tlen > 0 && tlen <= len) \x7b",
  "            const char* at = at_end ? data + len - tlen : data;",
  "            if (memcmp(at, tok, tlen) == 0) \x7b",
  "                return tlen;",
  "            \x7d",
  "        \x7d",
  "        tok = bar ? bar + 1 : NULL;",
  "    \x7d",
  "    return 0;",
  "\x7d",
  "",
  "int yb_string_trim(yb_string_t src, const char* prefix, const char* suffix,",
  "                   const char* prefix_override, const char* suffix_override,",
  "                   yb_string_t dest) \x7b",
  "    if (src == NULL || dest == NULL) \x7b",
  "        return YB_FAIL;",
  "    \x7d",
  "    if (prefix == NULL || suffix == NULL) \x7b",
  "        return YB_FAIL;",
  "    \x7d",
  "",
  "    int64_t start = 0;",
  "    int64_t end = src->len;",
  "    while (start < end && isspace((unsigned char)src->data[start])) \x7b",
  "        ++start;",
  "    \x7d",
  "    while (end > start && isspace((unsigned char)src->data[end - 1])) \x7b",
  "        --end;",
  "    \x7d",
  "    if (prefix_override != NULL) \x7b",
  "        start += yb_trim_token_match(src->data + start, end - start,",
  "                                     prefix_override, 0);",
  "    \x7d",
  "    if (suffix_override != NULL) \x7b",
  "        end -= yb_trim_token_match(src->data + start, end - start,",
  "                                   suffix_override, 1);",
  "    \x7d",
  "",
  "    yb_string_clear(dest);",
  "    if (yb_string_append_c_str(dest, prefix) != YB_OK ||",
  "        yb_string_append_data(dest, src->data + start, end - start) != YB_OK ||",
  "        yb_string_append_c_str(dest, suffix) != YB_OK) \x7b",
  "        return YB_FAIL;",
  "    \x7d",
  "    return YB_OK;",
  "\x7d",
  "",
  "static inline uint32_t murmurhash(const char* key, uint32_t len,",
  "                                  uint32_t seed) \x7b",
  "    uint32_t c1 = 0xcc9e2d51;",
  "    uint32_t c2 = 0x1b873593;",
  "    uint32_t r1 = 15;",
  "    uint32_t r2 = 13;",
  "    uint32_t m = 5;",
  "    uint32_t n = 0xe6546b64;",
  "    uint32_t h = 0;",
  "    uint32_t k = 0;",
  "    uint8_t* d = (uint8_t*)key;  // 32 bit extract from `key'",
  "    const uint32_t* chunks = NULL;",
  "    const uint8_t* tail = NULL;  // tail - last 8 bytes",
  "    int i = 0;",
  "    int l = len / 4;  // chunk length",
  "",
  "    h = seed;",
  "",
  "    chunks = (const uint32_t*)(d + l * 4);  // body",
  "    tail = (const uint8_t*)(d + l * 4);     // last 8 byte chunk of `key'",
  "",
  "    // for each 4 byte chunk of `key'",
  "    for (i = -l; i != 0; ++i) \x7b",
  "        // next 4 byte chunk of `key'",
  "        k = chunks[i];",
  "",
  "        // encode next 4 byte chunk of `key'",
  "        k *= c1;",
  "        k = (k << r1) | (k >> (32 - r1));",
  "        k *= c2;",
  "",
  "        // append to hash",
  "        h ^= k;",
  "        h = (h << r2) | (h >> (32 - r2));",
  "        h = h * m + n;",
  "    \x7d",
  "",
  "    k = 0;",
  "",
  "    // remainder",
  "    switch (len & 3) \x7b  // `len % 4'",
  "        case 3:",
  "            k ^= (tail[2] << 16);",
  "            __attribute__((fallthrough));",
  "        case 2:",
  "            k ^= (tail[1] << 8);",
  "            __attribute__((fallthrough));",
  "",
  "        case 1:",
  "            k ^= tail[0];",
  "            k *= c1;",
  "            k = (k << r1) | (k >> (32 - r1));",
  "            k *= c2;",
  "            h ^= k;",
  "    \x7d",
  "",
  "    h ^= len;",
  "",
  "    h ^= (h >> 16);",
  "    h *= 0x85ebca6b;",
  "    h ^= (h >> 13);",
  "    h *= 0xc2b2ae35;",
  "    h ^= (h >> 16);",
  "",
  "    return h;",
  "\x7d",
  "",
  "struct yb_hash_entry \x7b",
  "    yb_string_t key;",
  "    yb_string_t value;",
  "    uint32_t hash;",
  "    struct yb_hash_entry* next;",
  "\x7d;",
  "",
  "struct yb_hash_map_s \x7b",
  "    // array of bucket pointer to linked list of yb_hash_entry",
  "    struct yb_hash_entry** head;",
  "    // length of head",
  "    int32_t head_length;",
  "    // number of elements in hash map",
  "    int32_t elems;",
  "\x7d;",
  "",
  "static struct yb_hash_entry* yb_hash_entry_new(yb_string_t key,",
  "                                               yb_string_t value,",
  "                                               int32_t hash) \x7b",
  "    struct yb_hash_entry* n =",
  "        (struct yb_hash_entry*)malloc(sizeof(struct yb_hash_entry));",
  "    if (n == NULL) \x7b",
  "        return NULL;",
  "    \x7d",
  "    n->key = yb_string_clone(key);",
  "    if (n->key == NULL) \x7b",
  "        free(n);",
  "        return NULL;",
  "    \x7d",
  "    n->value = yb_string_clone(value);",
  "    if (n->value == NULL) \x7b",
  "        yb_string_free(n->key);",
  "        free(n);",
  "        return NULL;",
  "    \x7d",
  "    n->hash = hash;",
  "    n->next = NULL;",
  "    return n;",
  "\x7d",
  "",
  "static void yb_hash_entry_free(struct yb_hash_entry* e) \x7b",
  "    if (e == NULL) \x7b",
  "        return;",
  "    \x7d",
  "    yb_string_free(e->key);",
  "    yb_string_free(e->value);",
  "    free(e);",
  "\x7d",
  "",
  "// expected map->head_length ~= map->elems.",
  "// map->head_length is always a power of 2.",
  "static int yb_hash_map_resize(yb_hash_map_t map) \x7b",
  "    int32_t new_length = 4;",
  "    while (new_length < map->elems) \x7b",
  "        new_length *= 2;",
  "    \x7d",
  "",
  "    struct yb_hash_entry** new_head = (struct yb_hash_entry**)malloc(",
  "        new_length * sizeof(struct yb_hash_entry*));",
  "    if (new_head == NULL) \x7b",
  "        return YB_FAIL;",
  "    \x7d",
  "    memset(new_head, 0, new_length * sizeof(struct yb_hash_entry*));",
  "",
  "    int count = 0;",
  "    for (int32_t i = 0; i < map->head_length; i++) \x7b",
  "        struct yb_hash_entry* h = map->head[i];",
  "        while (h != NULL) \x7b",
  "            struct yb_hash_entry* next = h->next;",
  "            int32_t hash = h->hash;",
  "            struct yb_hash_entry** ptr = &new_head[hash & (new_length - 1)];",
  "            h->next = *ptr;",
  "            *ptr = h;",
  "            h = next;",
  "            count++;",
  "        \x7d",
  "    \x7d",
  "    assert(map->elems == count);",
  "    free(map->head);  // if free(NULL), no action occurs.",
  "    map->head = new_head;",
  "    map->head_length = new_length;",
  "    return YB_OK;",
  "\x7d",
  "",
  "yb_hash_map_t yb_hash_map_new() \x7b",
  "    yb_hash_map_t map = (yb_hash_map_t)malloc(sizeof(struct yb_hash_map_s));",
  "    if (map == NULL) \x7b",
  "        return NULL;",
  "    \x7d",
  "    map->head = NULL;",
  "    map->head_length = 0;",
  "    map->elems = 0;",
  "    int r = yb_hash_map_resize(map);",
  "    if (r != YB_OK) \x7b",
  "        free(map);",
  "        return NULL;",
  "    \x7d",
  "    return map;",
  "\x7d",
  "",
  "void yb_hash_map_free(yb_hash_map_t map) \x7b",
  "    if (map == NULL) \x7b",
  "        return;",
  "    \x7d",
  "",
  "    for (int32_t i = 0; i < map->head_length; i++) \x7b",
  "        struct yb_hash_entry* h = map->head[i];",
  "        while (h != NULL) \x7b",
  "            struct yb_hash_entry* next = h->next;",
  "            yb_string_free(h->key);",
  "            yb_string_free(h->value);",
  "            free(h);",
  "            h = next;",
  "        \x7d",
  "    \x7d",
  "    free(map->head);",
  "    free(map);",
  "\x7d",
  "",
  "// find the position of `key' in the hash map.",
  "static inline struct yb_hash_entry** yb_hash_map_find_pointer(yb_hash_map_t map,",
  "                                                              yb_string_t key,",
  "                                                              uint32_t hash) \x7b",
  "    struct yb_hash_entry** ptr = &map->head[hash & (map->head_length - 1)];",
  "    while (*ptr != NULL &&",
  "           ((*ptr)->hash != hash || yb_string_compare(key, (*ptr)->key) != 0)) \x7b",
  "        ptr = &(*ptr)->next;",
  "    \x7d",
  "    return ptr;",
  "\x7d",
  "",
  "int yb_hash_map_insert(yb_hash_map_t map, yb_string_t key, yb_string_t value) \x7b",
  "    if (map == NULL) \x7b",
  "        return YB_FAIL;",
  "    \x7d",
  "    if (key == NULL) \x7b",
  "        return YB_FAIL;",
  "    \x7d",
  "",
  "    int32_t hash = murmurhash(key->data, key->len, 0);",
  "    struct yb_hash_entry** ptr = yb_hash_map_find_pointer(map, key, hash);",
  "    struct yb_hash_entry* old = *ptr;",
  "",
  "    struct yb_hash_entry* h = yb_hash_entry_new(key, value, hash);",
  "    if (h == NULL) \x7b",
  "        return YB_FAIL;",
  "    \x7d",
  "    h->next = (old == NULL) ? NULL : old->next;",
  "    *ptr = h;",
  "    yb_hash_entry_free(old);",
  "",
  "    if (old == NULL) \x7b",
  "        map->elems++;",
  "        if (map->elems > map->head_length) \x7b",
  "            yb_hash_map_resize(map);",
  "        \x7d",
  "    \x7d",
  "    return YB_OK;",
  "\x7d",
  "",
  "yb_string_t yb_hash_map_get(yb_hash_map_t map, yb_string_t key) \x7b",
  "    if (map == NULL) \x7b",
  "        return NULL;",
  "    \x7d",
  "    if (key == NULL) \x7b",
  "        return NULL;",
  "    \x7d",
  "",
  "    int32_t hash = murmurhash(key->data, key->len, 0);",
  "    struct yb_hash_entry** ptr = yb_hash_map_find_pointer(map, key, hash);",
  "    if (*ptr == NULL) \x7b",
  "        return NULL;",
  "    \x7d",
  "    return (*ptr)->value;",
  "\x7d",
  "",
  "void yb_hash_map_remove(yb_hash_map_t map, yb_string_t key) \x7b",
  "    if (map == NULL) \x7b",
  "        return;",
  "    \x7d",
  "    if (key == NULL) \x7b",
  "        return;",
  "    \x7d",
  "    int32_t hash = murmurhash(key->data, key->len, 0);",
  "    struct yb_hash_entry** ptr = yb_hash_map_find_pointer(map, key, hash);",
  "    struct yb_hash_entry* h = *ptr;",
  "    if (h == NULL) \x7b",
  "        return;",
  "    \x7d",
  "    *ptr = h->next;",
  "    yb_hash_entry_free(h);",
  "    map->elems--;",
  "\x7d",
  "",
  "// mysql connection pool entry",
  "struct yb_mysql_entry_s \x7b",
  "    MYSQL* conn;",
  "    struct yb_mysql_entry_s* next;",
  "    time_t touch;",
  "\x7d;",
  "// mysql connection pool",
  "struct yb_mysql_pool_s \x7b",
  "    struct yb_mysql_entry_s* avail;",
  "    struct yb_mysql_entry_s* busy;",
  "    int max_connections;",
  "    int min_connections;",
  "    int cur_connections;",
  "    int64_t max_idle_time;",
  "    int64_t last_check_time;",
  "    int64_t last_check_idle_time;",
  "",
  "    const char* host;",
  "    int port;",
  "    const char* user;",
  "    const char* passwd;",
  "    const char* dbname;",
  "    const char* charset;",
  "    int connect_timeout;",
  "    int read_timeout;",
  "    int write_timeout;",
  "    int max_retries;",
  "",
  "    pthread_mutex_t mutex;",
  "\x7d;",
  "",
  "yb_mysql_pool_t yb_mysql_pool_new(const char* host, int port, const char* user,",
  "                                  const char* passwd, const char* dbname) \x7b",
  "    yb_mysql_pool_t pool =",
  "        (yb_mysql_pool_t)malloc(sizeof(struct yb_mysql_pool_s));",
  "    if (pool == NULL) \x7b",
  "        return NULL;",
  "    \x7d",
  "    pool->avail = NULL;",
  "    pool->busy = NULL;",
  "    pool->max_connections = 10;",
  "    pool->min_connections = 5;",
  "    pool->cur_connections = 0;",
  "    pool->max_idle_time = 60 * 1000;",
  "    pool->last_check_time = 0;",
  "    pool->last_check_idle_time = 0;",
  "    pool->host = host;",
  "    pool->port = port;",
  "    pool->user = user;",
  "    pool->passwd = passwd;",
  "    pool->dbname = dbname;",
  "    pool->charset = \"utf8\";",
  "    pool->connect_timeout = 3;",
  "    pool->read_timeout = 60;",
  "    pool->write_timeout = 60;",
  "    pool->max_retries = 3;",
  "    pthread_mutex_init(&pool->mutex, NULL);",
  "    return pool;",
  "\x7d",
  "",
  "#define __POOL_LOCK(pool) pthread_mutex_lock(&pool->mutex)",
  "#define __POOL_UNLOCK(pool) pthread_mutex_unlock(&pool->mutex)",
  "",
  "void yb_mysql_pool_option_max_connections(yb_mysql_pool_t pool, int max) \x7b",
  "    __POOL_LOCK(pool);",
  "    pool->max_connections = max;",
  "    __POOL_UNLOCK(pool);",
  "\x7d",
  "void yb_mysql_pool_option_min_connections(yb_mysql_pool_t pool, int min) \x7b",
  "    __POOL_LOCK(pool);",
  "    pool->min_connections = min;",
  "    __POOL_UNLOCK(pool);",
  "\x7d",
  "void yb_mysql_pool_option_max_idle_time(yb_mysql_pool_t pool, int64_t seconds) \x7b",
  "    __POOL_LOCK(pool);",
  "    pool->max_idle_time = seconds;",
  "    __POOL_UNLOCK(pool);",
  "\x7d",
  "",
  "void yb_mysql_pool_option_connect_timeout(yb_mysql_pool_t pool, int timeout) \x7b",
  "    __POOL_LOCK(pool);",
  "    pool->connect_timeout = timeout;",
  "    __POOL_UNLOCK(pool);",
  "\x7d",
  "",
  "void yb_mysql_pool_option_read_timeout(yb_mysql_pool_t pool, int timeout) \x7b",
  "    __POOL_LOCK(pool);",
  "    pool->read_timeout = timeout;",
  "    __POOL_UNLOCK(pool);",
  "\x7d",
  "",
  "void yb_mysql_pool_option_write_timeout(yb_mysql_pool_t pool, int timeout) \x7b",
  "    __POOL_LOCK(pool);",
  "    pool->write_timeout = timeout;",
  "    __POOL_UNLOCK(pool);",
  "\x7d",
  "",
  "void yb_mysql_pool_option_max_retries(yb_mysql_pool_t pool, int max) \x7b",
  "    __POOL_LOCK(pool);",
  "    pool->max_retries = max;",
  "    __POOL_UNLOCK(pool);",
  "\x7d",
  "",
  "void yb_mysql_pool_option_charset(yb_mysql_pool_t pool, const char* charset) \x7b",
  "    __POOL_LOCK(pool);",
  "    pool->charset = charset;",
  "    __POOL_UNLOCK(pool);",
  "\x7d",
  "",
  "static MYSQL* yb_mysql_try_new_conn(yb_mysql_pool_t pool) \x7b",
  "    MYSQL* conn = mysql_init(NULL);",
  "    if (conn == NULL) \x7b",
  "        return NULL;",
  "    \x7d",
  "    if (mysql_real_connect(conn, pool->host, pool->user, pool->passwd,",
  "                           pool->dbname, pool->port, NULL, 0) == NULL) \x7b",
  "        mysql_close(conn);",
  "        return NULL;",
  "    \x7d",
  "    if (mysql_set_character_set(conn, pool->charset) != 0) \x7b",
  "        mysql_close(conn);",
  "        return NULL;",
  "    \x7d",
  "    if (mysql_options(conn, MYSQL_OPT_CONNECT_TIMEOUT,",
  "                      &pool->connect_timeout) != 0) \x7b",
  "        mysql_close(conn);",
  "        return NULL;",
  "    \x7d",
  "    if (mysql_options(conn, MYSQL_OPT_READ_TIMEOUT, &pool->read_timeout) != 0) \x7b",
  "        mysql_close(conn);",
  "        return NULL;",
  "    \x7d",
  "    if (mysql_options(conn, MYSQL_OPT_WRITE_TIMEOUT, &pool->write_timeout) !=",
  "        0) \x7b",
  "        mysql_close(conn);",
  "        return NULL;",
  "    \x7d",
  "",
  "    return conn;",
  "\x7d",
  "",
  "MYSQL* yb_mysql_pool_get_connection(yb_mysql_pool_t pool) \x7b",
  "    __POOL_LOCK(pool);",
  "    MYSQL* conn = NULL;",
  "    struct yb_mysql_entry_s* entry = NULL;",
  "    time_t cur = time(NULL);",
  "",
  "    while (conn == NULL && pool->avail != NULL) \x7b",
  "        entry = pool->avail;",
  "        pool->avail = entry->next;",
  "        // clean edle timeout connections",
  "        if (cur > pool->max_idle_time + entry->touch) \x7b",
  "            mysql_close(entry->conn);",
  "            free(entry);",
  "            entry = NULL;",
  "            pool->cur_connections--;",
  "            continue;",
  "        \x7d",
  "    \x7d",
  "    if (entry != NULL) \x7b",
  "        entry->next = pool->busy;",
  "        pool->busy = entry;",
  "        entry->touch = cur;",
  "        __POOL_UNLOCK(pool);",
  "        return entry->conn;",
  "    \x7d",
  "",
  "    int retrys = pool->max_retries;",
  "    while (conn == NULL && pool->cur_connections < pool->max_connections &&",
  "           retrys-- > 0) \x7b",
  "        conn = yb_mysql_try_new_conn(pool);",
  "        if (conn) \x7b",
  "            pool->cur_connections++;",
  "            struct yb_mysql_entry_s* entry = (struct yb_mysql_entry_s*)malloc(",
  "                sizeof(struct yb_mysql_entry_s));",
  "            entry->conn = conn;",
  "            entry->next = pool->busy;",
  "            entry->touch = cur;",
  "            pool->busy = entry;",
  "        \x7d",
  "    \x7d",
  "    __POOL_UNLOCK(pool);",
  "    return conn;",
  "\x7d",
  "",
  "static void yb_mysql_pool_prune(yb_mysql_pool_t pool) \x7b",
  "    while (pool->cur_connections > pool->min_connections) \x7b",
  "        struct yb_mysql_entry_s* entry = pool->avail;",
  "        pool->avail = entry->next;",
  "        mysql_close(entry->conn);",
  "        free(entry);",
  "        pool->cur_connections--;",
  "    \x7d",
  "\x7d",
  "",
  "void yb_mysql_pool_release_connection(yb_mysql_pool_t pool, MYSQL* conn) \x7b",
  "    __POOL_LOCK(pool);",
  "    assert(pool->busy != NULL);",
  "",
  "    struct yb_mysql_entry_s* entry = pool->busy;",
  "    pool->busy = entry->next;",
  "    entry->next = pool->avail;",
  "    pool->avail = entry;",
  "    entry->conn = conn;",
  "    yb_mysql_pool_prune(pool);",
  "    __POOL_UNLOCK(pool);",
  "\x7d"]

end SqlMapper.Code.Support
