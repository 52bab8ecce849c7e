-- Names of the emoji among the older symbols: arrows, weather, zodiac, games, and the enclosed
-- letters and ideographs.

namespace Stencil.Emoji

/-- Each emoji with its names. -/
def symbols : List (String × List String) := [
  ("©", ["copyright"]), ("®", ["registered"]), ("‼", ["bangbang", "double_exclamation_mark"]),
  ("⁉", ["exclamation_question_mark", "interrobang"]), ("™", ["tm", "trade_mark"]),
  ("ℹ", ["information", "information_source"]), ("↔", ["left-right_arrow", "left_right_arrow"]),
  ("↕", ["arrow_up_down", "up-down_arrow"]), ("↖", ["arrow_upper_left", "up-left_arrow"]),
  ("↗", ["arrow_upper_right", "up-right_arrow"]),
  ("↘", ["arrow_lower_right", "down-right_arrow"]),
  ("↙", ["arrow_lower_left", "down-left_arrow"]),
  ("↩", ["leftwards_arrow_with_hook", "right_arrow_curving_left"]),
  ("↪", ["arrow_right_hook", "left_arrow_curving_right"]), ("⌚", ["watch"]),
  ("⌛", ["hourglass", "hourglass_done"]), ("⌨", ["keyboard"]), ("⎈", ["helm_symbol"]),
  ("⏏", ["eject_button", "eject_symbol"]), ("⏩", ["fast-forward_button", "fast_forward"]),
  ("⏪", ["fast_reverse_button", "rewind"]), ("⏫", ["arrow_double_up", "fast_up_button"]),
  ("⏬", ["arrow_double_down", "fast_down_button"]),
  ("⏭", ["black_right__pointing_double_triangle_with_vertical_bar", "next_track_button"]),
  ("⏮", ["black_left__pointing_double_triangle_with_vertical_bar", "last_track_button"]),
  ("⏯", ["black_right__pointing_triangle_with_double_vertical_bar", "play_or_pause_button"]),
  ("⏰", ["alarm_clock"]), ("⏱", ["stopwatch"]), ("⏲", ["timer_clock"]),
  ("⏳", ["hourglass_flowing_sand", "hourglass_not_done"]),
  ("⏸", ["double_vertical_bar", "pause_button"]), ("⏹", ["black_square_for_stop", "stop_button"]),
  ("⏺", ["black_circle_for_record", "record_button"]), ("Ⓜ", ["circled_m", "m"]),
  ("▪", ["black_small_square"]), ("▫", ["white_small_square"]),
  ("▶", ["arrow_forward", "play_button"]), ("◀", ["arrow_backward", "reverse_button"]),
  ("◻", ["white_medium_square"]), ("◼", ["black_medium_square"]),
  ("◽", ["white_medium-small_square", "white_medium_small_square"]),
  ("◾", ["black_medium-small_square", "black_medium_small_square"]), ("☀", ["sun", "sunny"]),
  ("☁", ["cloud"]), ("☂", ["umbrella"]), ("☃", ["snowman"]), ("☄", ["comet"]),
  ("☎", ["phone", "telephone"]), ("☑", ["ballot_box_with_check"]),
  ("☔", ["umbrella_with_rain_drops"]), ("☕", ["coffee", "hot_beverage"]), ("☘", ["shamrock"]),
  ("☝", ["index_pointing_up", "point_up"]), ("☠", ["skull_and_crossbones"]),
  ("☢", ["radioactive", "radioactive_sign"]), ("☣", ["biohazard", "biohazard_sign"]),
  ("☦", ["orthodox_cross"]), ("☪", ["star_and_crescent"]), ("☮", ["peace_symbol"]),
  ("☯", ["yin_yang"]), ("☸", ["wheel_of_dharma"]),
  ("☹", ["frowning_face", "white_frowning_face"]), ("☺", ["relaxed", "smiling_face"]),
  ("♀", ["female_sign"]), ("♂", ["male_sign"]), ("♈", ["aries"]), ("♉", ["taurus"]),
  ("♊", ["gemini"]), ("♋", ["cancer"]), ("♌", ["leo"]), ("♍", ["virgo"]), ("♎", ["libra"]),
  ("♏", ["scorpio", "scorpius"]), ("♐", ["sagittarius"]), ("♑", ["capricorn"]),
  ("♒", ["aquarius"]), ("♓", ["pisces"]), ("♟", ["chess_pawn"]), ("♠", ["spade_suit", "spades"]),
  ("♣", ["club_suit", "clubs"]), ("♥", ["heart_suit", "hearts"]),
  ("♦", ["diamond_suit", "diamonds"]), ("♨", ["hot_springs", "hotsprings"]),
  ("♻", ["recycle", "recycling_symbol"]), ("♾", ["infinity"]),
  ("♿", ["wheelchair", "wheelchair_symbol"]), ("⚒", ["hammer_and_pick"]), ("⚓", ["anchor"]),
  ("⚔", ["crossed_swords"]), ("⚕", ["medical_symbol"]), ("⚖", ["balance_scale", "scales"]),
  ("⚗", ["alembic"]), ("⚙", ["gear"]), ("⚛", ["atom_symbol"]),
  ("⚜", ["fleur-de-lis", "fleur__de__lis"]), ("⚠", ["warning"]), ("⚡", ["high_voltage", "zap"]),
  ("⚪", ["white_circle"]), ("⚫", ["black_circle"]), ("⚰", ["coffin"]), ("⚱", ["funeral_urn"]),
  ("⚽", ["soccer", "soccer_ball"]), ("⚾", ["baseball"]), ("⛄", ["snowman_without_snow"]),
  ("⛅", ["partly_sunny", "sun_behind_cloud"]),
  ("⛈", ["cloud_with_lightning_and_rain", "thunder_cloud_and_rain"]), ("⛎", ["ophiuchus"]),
  ("⛏", ["pick"]), ("⛑", ["helmet_with_white_cross", "rescue_worker’s_helmet"]),
  ("⛓", ["chains"]), ("⛔", ["no_entry"]), ("⛩", ["shinto_shrine"]), ("⛪", ["church"]),
  ("⛰", ["mountain"]), ("⛱", ["umbrella_on_ground"]), ("⛲", ["fountain"]),
  ("⛳", ["flag_in_hole", "golf"]), ("⛴", ["ferry"]), ("⛵", ["boat", "sailboat"]),
  ("⛷", ["skier"]), ("⛸", ["ice_skate"]), ("⛹", ["person_bouncing_ball", "person_with_ball"]),
  ("⛺", ["tent"]), ("⛽", ["fuel_pump", "fuelpump"]), ("✂", ["scissors"]),
  ("✅", ["white_check_mark", "white_heavy_check_mark"]), ("✈", ["airplane"]),
  ("✉", ["email", "envelope"]), ("✊", ["fist", "raised_fist"]), ("✋", ["hand", "raised_hand"]),
  ("✌", ["v", "victory_hand"]), ("✍", ["writing_hand"]), ("✏", ["pencil2"]), ("✒", ["black_nib"]),
  ("✔", ["heavy_check_mark"]), ("✖", ["heavy_multiplication_x"]), ("✝", ["latin_cross"]),
  ("✡", ["star_of_david"]), ("✨", ["sparkles"]),
  ("✳", ["eight-spoked_asterisk", "eight_spoked_asterisk"]),
  ("✴", ["eight-pointed_star", "eight_pointed_black_star"]), ("❄", ["snowflake"]),
  ("❇", ["sparkle"]), ("❌", ["cross_mark", "x"]),
  ("❎", ["cross_mark_button", "negative_squared_cross_mark"]),
  ("❓", ["question", "question_mark"]), ("❔", ["grey_question", "white_question_mark"]),
  ("❕", ["grey_exclamation", "white_exclamation_mark"]),
  ("❗", ["exclamation", "exclamation_mark", "heavy_exclamation_mark"]),
  ("❣", ["heavy_heart_exclamation", "heavy_heart_exclamation_mark_ornament"]),
  ("❤", ["heart", "red_heart"]), ("➕", ["heavy_plus_sign"]), ("➖", ["heavy_minus_sign"]),
  ("➗", ["heavy_division_sign"]), ("➡", ["arrow_right", "right_arrow"]), ("➰", ["curly_loop"]),
  ("➿", ["double_curly_loop", "loop"]), ("⤴", ["arrow_heading_up", "right_arrow_curving_up"]),
  ("⤵", ["arrow_heading_down", "right_arrow_curving_down"]), ("⬅", ["arrow_left", "left_arrow"]),
  ("⬆", ["arrow_up", "up_arrow"]), ("⬇", ["arrow_down", "down_arrow"]),
  ("⬛", ["black_large_square"]), ("⬜", ["white_large_square"]),
  ("⭐", ["star", "white_medium_star"]), ("⭕", ["heavy_large_circle", "o"]), ("〰", ["wavy_dash"]),
  ("〽", ["part_alternation_mark"]), ("㊗", ["congratulations", "japanese_congratulations_button"]),
  ("㊙", ["japanese_secret_button", "secret"]), ("🀄", ["mahjong", "mahjong_red_dragon"]),
  ("🃏", ["black_joker", "joker"]), ("🅰", ["a", "a_button_(blood_type)"]),
  ("🅱", ["b", "b_button_(blood_type)"]), ("🅾", ["o2", "o_button_(blood_type)"]),
  ("🅿", ["p_button", "parking"]), ("🆎", ["ab", "ab_button_(blood_type)"]),
  ("🆑", ["cl", "cl_button"]), ("🆒", ["cool", "cool_button"]), ("🆓", ["free", "free_button"]),
  ("🆔", ["id", "id_button"]), ("🆕", ["new", "new_button"]), ("🆖", ["ng", "ng_button"]),
  ("🆗", ["ok", "ok_button"]), ("🆘", ["sos", "sos_button"]), ("🆙", ["up", "up!_button"]),
  ("🆚", ["vs", "vs_button"]), ("🈁", ["japanese_here_button", "koko"]),
  ("🈂", ["japanese_service_charge_button", "sa"]),
  ("🈚", ["japanese_free_of_charge_button", "u7121"]),
  ("🈯", ["japanese_reserved_button", "u6307"]), ("🈲", ["japanese_prohibited_button", "u7981"]),
  ("🈳", ["japanese_vacancy_button", "u7a7a"]), ("🈴", ["japanese_passing_grade_button", "u5408"]),
  ("🈵", ["japanese_no_vacancy_button", "u6e80"]),
  ("🈶", ["japanese_not_free_of_charge_button", "u6709"]),
  ("🈷", ["japanese_monthly_amount_button", "u6708"]),
  ("🈸", ["japanese_application_button", "u7533"]), ("🈹", ["japanese_discount_button", "u5272"]),
  ("🈺", ["japanese_open_for_business_button", "u55b6"]),
  ("🉐", ["ideograph_advantage", "japanese_bargain_button"]),
  ("🉑", ["accept", "japanese_acceptable_button"])]

end Stencil.Emoji
